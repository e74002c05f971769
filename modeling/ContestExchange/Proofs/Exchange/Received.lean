import ContestExchange.Session.Basic
import ContestExchange.Proofs.Exchange.Accounting
import ContestExchange.Proofs.Text.Cuts

/-!
# Received texts

All that matters about a received text are its tokens, the words in upper case
(`Catalogue.read_of_hasTokens`).  An exchange keeps them, and joined with single blanks they
are a text with the same tokens again (`hasTokens_joinWith`).  So what is told about an exchange
that could not be made out, be it in an error or in an event, can be read again and gives the
same exchange (`Catalogue.read_receivedText`).
-/

namespace ContestExchange

open Text

/-! ### Tokens of a text -/

/-- The text consists of words and blanks, and the words in upper case are these tokens. -/
def HasTokens (text : String) (tokens : List String) : Prop :=
  ∃ ws, Cut isBlank text.toList ws ∧ ws.map upper = tokens

theorem hasTokens_iff {text : String} {tokens : List String} :
    HasTokens text tokens ↔ (words text).map upper = tokens := by
  simp only [HasTokens, ← parts_eq_iff, words, exists_eq_left']

theorem ne_empty_of_mem_words {s w : String} (h : w ∈ words s) : w ≠ "" := by
  obtain ⟨cs, hcs, rfl⟩ := List.mem_map.1 h
  have hne := (List.mem_filter.1 hcs).2
  rw [Ne, ← String.toList_eq_nil_iff, String.toList_ofList]
  simpa using hne

/-- **Tokens are found again in the text that they are joined to.** -/
theorem hasTokens_joinWith {text : String} {tokens : List String} (h : HasTokens text tokens) :
    HasTokens (joinWith " " tokens) tokens := by
  rw [hasTokens_iff] at h ⊢
  subst h
  rw [words_joinWith, List.map_map]
  · exact List.map_congr_left fun w _ => upper_upper w
  · intro t ht
    obtain ⟨w, hw, rfl⟩ := List.mem_map.1 ht
    exact ⟨upper_eq_empty_iff.not.2 (ne_empty_of_mem_words hw), (unbroken_of_mem_words hw).upper⟩

namespace Exchange

variable {x : Exchange} {told : String}

theorem validated_eq_error_iff : x.validated = .error (.unreadable told) ↔
    x.isValid = false ∧ told = x.receivedText := by
  rw [validated]
  cases x.isValid with
  | true => exact iff_of_false nofun fun h => nomatch h.1
  | false =>
    rw [if_neg Bool.false_ne_true, Except.error.injEq, ReadError.unreadable.injEq, eq_comm]
    exact (and_iff_right rfl).symm

theorem unparseable_mem_parseEvents_iff :
    Event.unparseable told ∈ Session.parseEvents (.ok x) ↔
      x.isValid = false ∧ told = x.receivedText := by
  cases h : x.isValid <;> simp [Session.parseEvents, h]

end Exchange

/-! ### Reading again -/

namespace Catalogue

variable {c : Catalogue} {template : Template} {text : String} {tokens : List String}
  {x : Exchange}

/-- **A text is read by its tokens.** -/
theorem read_of_hasTokens (h : HasTokens text tokens) (c : Catalogue) (template : Template) :
    c.read template text = c.readTokens template tokens := by
  rw [read, hasTokens_iff.1 h]

/-- An exchange keeps the tokens that it was read from. -/
theorem hasTokens_received (h : c.read template text = .ok x) : HasTokens text x.received := by
  obtain ⟨m, ha⟩ := accounts_of_readTokens h
  rw [ha.received, hasTokens_iff]

/-- **What is told of a received text is as good as the text.**  The exchange keeps the tokens of
the text, and reading them again, joined with blanks, gives the same exchange.  That is the text
which the error and the event tell of an invalid exchange.  And texts with the same tokens are read
the same, or fail the same. -/
theorem read_receivedText (c : Catalogue) (template : Template) (text : String) :
    (∀ x, c.read template text = .ok x → HasTokens text x.received ∧
      c.read template x.receivedText = .ok x ∧
      ∀ told, (x.validated = .error (.unreadable told) ↔
          x.isValid = false ∧ told = x.receivedText) ∧
        (Event.unparseable told ∈ Session.parseEvents (.ok x) ↔
          x.isValid = false ∧ told = x.receivedText)) ∧
      ∀ text' tokens, HasTokens text tokens → HasTokens text' tokens →
        c.read template text' = c.read template text := by
  refine ⟨fun x hx => ?_, fun text' tokens h h' => ?_⟩
  · have htokens := hasTokens_received hx
    refine ⟨htokens, ?_, fun told =>
      ⟨Exchange.validated_eq_error_iff, Exchange.unparseable_mem_parseEvents_iff⟩⟩
    rw [Exchange.receivedText, read_of_hasTokens (hasTokens_joinWith htokens),
      ← read_of_hasTokens htokens, hx]
  · rw [read_of_hasTokens h', read_of_hasTokens h]

end Catalogue

/-- Unusual blanks and letters that have no upper case here. -/
example : (words "\u00a0k1ar\u3000 5nn\tß").map upper = ["K1AR", "5NN", "ß"] ∧
    joinWith " " ["K1AR", "5NN", "ß"] = "K1AR 5NN ß" := by
  decide +kernel

end ContestExchange
