import ContestExchange.Contest.Format
import ContestExchange.Exchange.Basic
import ContestExchange.Proofs.Json.RoundTrip
import ContestExchange.Proofs.Text.Order

/-!
# Exchanges and contests can be read back

Exchanges and contest definitions are JSON that other programs write and read, and
here too whatever is written is read as it was.  The values that a contest has for a
country are a set, listed in ascending order (`Contest.IsOrdered`).  A decoder puts
them in order, so every contest that was read is of that kind
(`Contest.isOrdered_of_decoder`), and every contest of that kind is read back
(`Contest.decoder_toJson`).
-/

namespace ContestExchange

open Json

/-! ### Exchanges -/

theorem Entry.decoder_toJson (e : Entry) : Entry.decoder e.toJson = some e := rfl

theorem Entry.plain_toJson (e : Entry) : Plain e.toJson := by
  refine .record _ ?_
  simp only [List.forall_mem_cons]
  exact ⟨.text e.field, .text e.slot, .text e.value, .bool e.isMult, List.forall_mem_nil _⟩

theorem Exchange.decoder_toJson (x : Exchange) : Exchange.decoder x.toJson = some x := by
  have h : Exchange.decoder x.toJson = (do
      let entries ← list? Entry.decoder (.array (x.entries.map Entry.toJson))
      let correction ← nullable? text? (.ofOption .text x.correction)
      let received ← list? text? (.texts x.received)
      return ⟨entries, correction, x.isValid, received⟩) := rfl
  rw [h, list?_map Entry.decoder_toJson, nullable?_text, list?_texts]
  rfl

theorem Exchange.plain_toJson (x : Exchange) : Plain x.toJson := by
  refine .record _ ?_
  simp only [List.forall_mem_cons]
  exact ⟨.list Entry.plain_toJson x.entries, .ofOption .text x.correction, .bool x.isValid,
    .list .text x.received, List.forall_mem_nil _⟩

/-! ### Contests -/

theorem Mode.decoder_name (m : Mode) : Mode.decoder (.text m.name) = some m :=
  ofName?_name m

theorem Clause.decoder_toJson (c : Clause) : Clause.decoder c.toJson = some c := by
  have h : Clause.decoder c.toJson = (do
      let countries ← list? text? (.texts c.countries)
      let modes ← list? Mode.decoder (.array (c.modes.map fun m => .text m.name))
      let fields ← list? text? (.texts c.fields)
      let optionalFields ← list? text? (.texts c.optionalFields)
      return ⟨countries, modes, fields, optionalFields⟩) := rfl
  rw [h, list?_map Mode.decoder_name, list?_texts, list?_texts, list?_texts]
  rfl

theorem Clause.plain_toJson (c : Clause) : Plain c.toJson := by
  refine .record _ ?_
  simp only [List.forall_mem_cons]
  exact ⟨.list .text c.countries, .list (fun m => .text m.name) c.modes, .list .text c.fields,
    .list .text c.optionalFields, List.forall_mem_nil _⟩

namespace Contest

/-- The values of every country stand in strictly ascending order, as those of a set do. -/
def IsOrdered (c : Contest) : Prop :=
  ∀ e ∈ c.countryValues.entries, e.2.Pairwise (· < ·)

/-- The values of a country, put in order. -/
def valuesDecoder : Decoder (List String) := fun w =>
  (list? text? w).map Text.sortUnique

theorem valuesDecoder_texts {l : List String} (h : l.Pairwise (· < ·)) :
    valuesDecoder (.texts l) = some l := by
  rw [valuesDecoder, list?_texts, Option.map_some, Text.sortUnique_of_pairwise h]

theorem pairwise_of_valuesDecoder {w : Json} {l : List String} (h : valuesDecoder w = some l) :
    l.Pairwise (· < ·) := by
  obtain ⟨m, -, rfl⟩ := Option.map_eq_some_iff.1 h
  exact Text.pairwise_sortUnique m

/-- **A contest is read back from what is written of it.** -/
theorem decoder_toJson {c : Contest} (hc : c.IsOrdered) : decoder c.toJson = some c := by
  have h : decoder c.toJson = (do
      let multFields ← list? text? (.texts c.multFields)
      let numericFields ← list? text? (.texts c.numericFields)
      let clauses ← list? Clause.decoder (.array (c.clauses.map Clause.toJson))
      let countryValues ← dictionary? valuesDecoder
        (.record (c.countryValues.entries.map fun e => (e.1, .texts e.2)))
      let patternFile ← nullable? text? (.ofOption .text c.patternFile)
      let valuesDir ← nullable? text? (.ofOption .text c.valuesDir)
      let prefillFiles ← dictionary? text?
        (.record (c.prefillFiles.entries.map fun e => (e.1, .text e.2)))
      return ⟨c.name, multFields, numericFields, clauses, countryValues, patternFile, valuesDir,
        prefillFiles⟩) := rfl
  rw [h, list?_texts, list?_texts, list?_map Clause.decoder_toJson,
    dictionary?_record _ fun e he => valuesDecoder_texts (hc e he), nullable?_text, nullable?_text,
    dictionary?_record _ fun e _ => text?_text e.2]
  rfl

theorem plain_toJson (c : Contest) : Plain c.toJson := by
  refine .record _ ?_
  simp only [List.forall_mem_cons]
  exact ⟨.text c.name, .list .text c.multFields, .list .text c.numericFields,
    .list Clause.plain_toJson c.clauses, .dictionary (.list .text) c.countryValues,
    .ofOption .text c.patternFile, .ofOption .text c.valuesDir, .dictionary .text c.prefillFiles,
    List.forall_mem_nil _⟩

/-- **A contest that was read is in order.** -/
theorem isOrdered_of_decoder {v : Json} {c : Contest} (h : decoder v = some c) : c.IsOrdered := by
  simp only [decoder, Option.bind_eq_bind, Option.bind_eq_some_iff] at h
  obtain ⟨f, -, name, -, multFields, -, numericFields, -, clauses, -, countryValues, hv, patternFile,
    -, valuesDir, -, prefillFiles, -, hc⟩ := h
  obtain rfl := Option.some.inj hc
  rw [Fields.withDefault] at hv
  split at hv
  · obtain rfl := Option.some.inj hv
    exact fun e he => absurd he List.not_mem_nil
  · exact fun e he => forall_of_dictionary? (fun _ _ => pairwise_of_valuesDecoder) hv e he

end Contest

end ContestExchange
