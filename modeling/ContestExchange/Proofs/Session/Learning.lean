import ContestExchange.Proofs.Exchange.Accounting
import ContestExchange.Proofs.Field.Learning
import ContestExchange.Session.Basic

/-!
# Logging teaches nothing new

A session learns the multipliers of the exchanges that it logs, as canonical values
of their fields.  If the exchange was read with the same fields, its values stand
for themselves there already (`Catalogue.settles_of_read`), so every text still says
what it said before (`Session.log_keeps_readings`).
-/

namespace ContestExchange

open Text

namespace Catalogue

variable {c : Catalogue} {template : Template} {text : String} {x : Exchange} {e : Entry}

/-- **What is read stands for itself**: the value of an entry is its own canonical form in the
field that is named there. -/
theorem settles_of_read (hc : c.Sound) (ht : c.Tidy) (hx : c.read template text = .ok x)
    (he : e ∈ x.entries) (hne : e.value ≠ "") : c.Settles e.field e.value := by
  obtain ⟨m, ha⟩ := accounts_of_readTokens hx
  obtain ⟨s, hs, hget⟩ := List.getElem_of_mem he
  have hentry : x.entries[s]? = some e := List.getElem?_eq_some_iff.2 ⟨hs, hget⟩
  have hs' : s < template.length := ha.length_entries ▸ hs
  cases hm : m ⟨s, hs'⟩ with
  | none =>
    have hempty := hentry.symm.trans (ha.unfilled hm)
    rw [Option.some.injEq] at hempty
    exact absurd (congrArg Entry.value hempty) hne
  | some i =>
    obtain ⟨-, id, f, v, hid, hf, hv, hshown⟩ := ha.filled hm
    have hword : Unbroken (plain ((words text).map upper))[i] := by
      obtain ⟨w, hw, hi⟩ := List.mem_map.1 (List.mem_filter.1 (List.getElem_mem i.2)).1
      exact hi ▸ (unbroken_of_mem_words hw).upper
    have hcanonical : f.canonical? (plain ((words text).map upper))[i] = some v := by
      rw [canonical?, hid, Option.bind_some, hf, Option.bind_some] at hv
      exact hv
    have hmem := List.mem_of_getElem? hf
    obtain rfl := Option.some.inj (hentry.symm.trans hshown)
    exact ⟨Field.trim_of_canonical? (ht f hmem) hword hcanonical, id, f, id?_of_getElem? hf, hf,
      Field.canonicalAsSent?_of_canonical? (hc.forall_mem f hmem).coherent hcanonical⟩

end Catalogue

namespace Session

theorem learnEntries_catalogue (s : Session) (l : List Entry) :
    (s.learnEntries l).1.catalogue =
      l.foldl (fun c e => (c.learn e.field e.value).1) s.catalogue := by
  induction l generalizing s with
  | nil => rfl
  | cons e r ih => exact ih _

theorem log_catalogue {s : Session} {settings : Settings} {outlet : Outlet} {x : Exchange}
    (hv : x.isValid = true) (ho : outlet.refusal? = none) (hl : settings.learnMultValues = true)
    (call : String) (time : UInt64) : ∃ g, s.log settings outlet call x time = .ok g ∧
      g.session.catalogue = x.mults.foldl (fun c e => (c.learn e.field e.value).1) s.catalogue := by
  have hlearned := s.learnEntries_catalogue x.mults
  rw [log, Exchange.validated, if_pos hv]
  simp only [ho, hl, if_true]
  exact ⟨_, rfl, hlearned⟩

/-- **Logging an exchange that was read changes no reading.**  The fields learn its multipliers;
they take the same values as before, in the same forms, and every text says the same. -/
theorem log_keeps_readings {s : Session} {settings : Settings} {outlet : Outlet}
    {template : Template} {text : String} {x : Exchange} (hc : s.catalogue.Built)
    (ht : s.catalogue.Tidy) (hx : s.catalogue.read template text = .ok x) (hv : x.isValid = true)
    (ho : outlet.refusal? = none) (hl : settings.learnMultValues = true) (call : String)
    (time : UInt64) : ∃ g, s.log settings outlet call x time = .ok g ∧
      g.session.catalogue = x.mults.foldl (fun c e => (c.learn e.field e.value).1) s.catalogue ∧
      (∀ name v, g.session.catalogue.isLegal name v = s.catalogue.isLegal name v ∧
        g.session.catalogue.resolve? name v = s.catalogue.resolve? name v ∧
        g.session.catalogue.canonical? name v = s.catalogue.canonical? name v) ∧
      ∀ template' text', g.session.catalogue.read template' text' =
        s.catalogue.read template' text' := by
  obtain ⟨g, hg, hlearned⟩ := log_catalogue (s := s) hv ho hl call time
  have hagrees : s.catalogue.Agrees g.session.catalogue := by
    rw [hlearned]
    refine Catalogue.agrees_foldl_learn fun e he => ?_
    obtain ⟨hmem, hmult⟩ := List.mem_filter.1 he
    rw [Bool.and_eq_true, bne_iff_ne] at hmult
    exact Catalogue.settles_of_read hc.sound ht hx hmem hmult.2
  refine ⟨g, hg, hlearned, fun name v => ⟨?_, ?_, ?_⟩, fun template' text' => ?_⟩
  · exact (hagrees.isLegal name v).symm
  · exact (hagrees.resolve? name v).symm
  · exact (hagrees.canonical? name v).symm
  · exact (hagrees.read template' text').symm

/-- A field that takes the age 50, which is a multiplier. -/
def ages : Catalogue :=
  (Catalogue.empty.insert ⟨"AGE", true, true, some ⟨"^(?:50)$", (· == "50")⟩, .empty⟩).1

/-- An age that was cut to `5T` teaches the field the class `50`, which no reading shows. -/
theorem log_keeps_readings_of_ages :
    let s : Session := ⟨ages, fun _ _ => none, .ofSources .empty, 0, 0⟩
    let x : Exchange := ⟨[⟨"AGE", "AGE", "50", true⟩], none, true, ["5T"]⟩
    s.catalogue.read [⟨"AGE", false⟩] "5t" = .ok x ∧
      ∃ g, s.log .standard .vacant "K1AR" x 0 = .ok g ∧
        g.session.catalogue = x.mults.foldl (fun c e => (c.learn e.field e.value).1) s.catalogue ∧
        (∀ name v, g.session.catalogue.isLegal name v = s.catalogue.isLegal name v ∧
          g.session.catalogue.resolve? name v = s.catalogue.resolve? name v ∧
          g.session.catalogue.canonical? name v = s.catalogue.canonical? name v) ∧
        ∀ template' text', g.session.catalogue.read template' text' =
          s.catalogue.read template' text' := by
  intro s x
  have hx : s.catalogue.read [⟨"AGE", false⟩] "5t" = .ok x := by decide +kernel
  have hc : ages.Built := .insert .empty Spellings.reached_empty
  have ht : ages.Tidy :=
    Catalogue.Built.tidy_insert .empty Catalogue.holds_empty.forall_mem Spellings.tidy_empty
  exact ⟨hx, log_keeps_readings hc ht hx rfl rfl rfl "K1AR" 0⟩

end Session

end ContestExchange
