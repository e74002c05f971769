import ContestExchange.Session.Live

/-!
# What a turn comes to

One case for each way in which a session can take a turn (`Live.Turns`), and one for
each way in which its desk can go on (`Live.DeskTurns`).  Whoever proves something of
every step goes through these cases and does not look into `Live.step`.
-/

namespace ContestExchange.Live

variable {σ : Type} {k : Sink σ} {settings : Settings} {v w : Live σ} {l : Link σ} {t : Turn}
  {sig : List Signal}

/-- What a turn of the desk leads to, and what is heard of it. -/
inductive DeskTurns (settings : Settings) (v : Live σ) (l : Link σ) :
    Live σ → List Signal → Prop
  /-- The desk passes on what the writer said. -/
  | passed {r : Reply} {notices : List Reply} (hd : v.desk = .ready)
    (hr : l.notices = r :: notices) :
    DeskTurns settings v l { v with link := some { l with notices } } (passOn r)
  /-- The desk finds that the writer has ended. -/
  | deserted {m : Message} {e : Awaited} (hd : v.desk = .sending m e)
    (ho : l.outlet settings = .closed) :
    DeskTurns settings v l (v.unanswered e).1 (v.unanswered e).2
  /-- The desk sends what it has for the writer. -/
  | sent {m : Message} {e : Awaited} (hd : v.desk = .sending m e)
    (ho : l.outlet settings ≠ .closed) (hfull : l.outlet settings ≠ .full) :
    DeskTurns settings v l { v with desk := .waiting e, link := some (l.send m) } []
  /-- The desk has the reply that it waited for. -/
  | heard {e : Awaited} {r : Reply} (hd : v.desk = .waiting e) (hr : l.reply = some r) :
    DeskTurns settings v l (replied { v with link := some { l with reply := none } } r e).1
      (replied { v with link := some { l with reply := none } } r e).2

theorem deskTurns_of_deskTurn? (h : v.deskTurn? settings l = some (w, sig)) :
    DeskTurns settings v l w sig := by
  rw [deskTurn?] at h
  split at h
  · rename_i hd
    split at h
    · cases h
    · rename_i hr
      obtain ⟨rfl, rfl⟩ := Prod.mk.inj (Option.some.inj h)
      exact .passed hd hr
  · rename_i m e hd
    split at h
    · rename_i ho
      obtain ⟨rfl, rfl⟩ := Prod.ext_iff.1 (Option.some.inj h)
      exact .deserted hd ho
    · cases h
    · rename_i ho hfull
      obtain ⟨rfl, rfl⟩ := Prod.mk.inj (Option.some.inj h)
      exact .sent hd ho hfull
  · rename_i e hd
    split at h
    · cases h
    · rename_i r hr
      obtain ⟨rfl, rfl⟩ := Prod.ext_iff.1 (Option.some.inj h)
      exact .heard hd hr
  · cases h

/-- What a turn leads to, and what is heard of it. -/
inductive Turns (settings : Settings) (k : Sink σ) (v : Live σ) :
    Turn → Live σ → List Signal → Prop
  /-- The ready desk carries a command out. -/
  | carriedOut (hd : v.desk = .ready) (c : Command) :
    Turns settings k v (.command c) (v.carryOut settings c).1 (v.carryOut settings c).2
  /-- The desk has stopped and carries out no command any more. -/
  | refused (hd : v.desk = .stopped) (c : Command) :
    Turns settings k v (.command c) v [.answer (.failed .notRunning)]
  /-- The desk goes on. -/
  | desk {l : Link σ} {w : Live σ} {sig : List Signal} (hl : v.link = some l)
    (h : DeskTurns settings v l w sig) : Turns settings k v .desk w sig
  /-- The writer goes on. -/
  | writer {l l' : Link σ} (hl : v.link = some l)
    (h : l.turn? settings k (v.desk == .stopped) = some l') :
    Turns settings k v .writer { v with link := some l' } []
  /-- Observations have waited long enough. -/
  | timer {l l' : Link σ} (hl : v.link = some l) (h : l.timer? = some l') :
    Turns settings k v .timer { v with link := some l' } []
  /-- Nobody will give commands any more. -/
  | left (hd : v.desk = .ready) : Turns settings k v .leave { v with desk := .stopped } []

theorem turns_of_step (h : v.step settings k t = some (w, sig)) : Turns settings k v t w sig := by
  cases t with
  | command c =>
    rw [step] at h
    split at h
    · rename_i hd
      obtain ⟨rfl, rfl⟩ := Prod.ext_iff.1 (Option.some.inj h)
      exact .carriedOut hd c
    · rename_i hd
      obtain ⟨rfl, rfl⟩ := Prod.mk.inj (Option.some.inj h)
      exact .refused hd c
    · cases h
  | desk =>
    obtain ⟨l, hl, hd⟩ := Option.bind_eq_some_iff.1 h
    exact .desk hl (deskTurns_of_deskTurn? hd)
  | writer =>
    obtain ⟨l', hb, hw⟩ := Option.map_eq_some_iff.1 h
    obtain ⟨l, hl, ht⟩ := Option.bind_eq_some_iff.1 hb
    obtain ⟨rfl, rfl⟩ := Prod.mk.inj hw
    exact .writer hl ht
  | timer =>
    obtain ⟨l', hb, hw⟩ := Option.map_eq_some_iff.1 h
    obtain ⟨l, hl, ht⟩ := Option.bind_eq_some_iff.1 hb
    obtain ⟨rfl, rfl⟩ := Prod.mk.inj hw
    exact .timer hl ht
  | leave =>
    rw [step] at h
    split at h
    · rename_i hd
      obtain ⟨rfl, rfl⟩ := Prod.mk.inj (Option.some.inj h)
      exact .left hd
    · cases h

end ContestExchange.Live
