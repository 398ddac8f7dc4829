import DiceLanguage.Proofs.Diagnosis.Order
import DiceLanguage.Proofs.Sides

/-!
# Journals

A journal tells of every diagnostic once, in order, and of nothing else that
went wrong. Missing numbers are noted before the formula has been read, and all
the rest afterwards: main statement `Reader.journal_tells_diagnostics`.
-/

set_option autoImplicit false

namespace DiceLanguage

namespace Event

def diagnostic? : Event → Option Diagnostic
  | .recovered diagnostic => some diagnostic
  | .divided .. | .tokenized .. | .secretDiscarded | .consumed .. => none

/-- Whether a message is about a recovery, by its first words. -/
def tellsRecovery (message : String) : Bool :=
  "recovering from ".toList.isPrefixOf message.toList

theorem tellsRecovery_message (event : Event) :
    tellsRecovery event.message = event.diagnostic?.isSome := by
  unfold message
  cases event <;> simp [tellsRecovery, diagnostic?, List.isPrefixOf]

/-- The messages about recoveries are those of the diagnostics that events tell
of. -/
private theorem filter_tellsRecovery (events : List Event) :
    (events.map message).filter tellsRecovery =
      (events.filterMap diagnostic?).map fun diagnostic =>
        "recovering from " ++ diagnostic.message := by
  induction events with
  | nil => rfl
  | cons event rest ih =>
      simp only [List.map_cons, List.filter_cons, tellsRecovery_message, List.filterMap_cons, ih]
      cases event <;> rfl

private theorem filterMap_recovered (diagnostics : List Diagnostic) :
    (diagnostics.map recovered).filterMap diagnostic? = diagnostics := by
  have same : diagnostic? ∘ recovered = some := rfl
  rw [List.filterMap_map, same, List.filterMap_some]

end Event

namespace Services

private theorem mem_secretEvents_iff {tokens : List Token} {event : Event} :
    event ∈ secretEvents tokens ↔
      event = .secretDiscarded ∧ tokens.head?.map Token.kind = some .secret := by
  unfold secretEvents
  cases tokens with
  | nil => simp [Reading.isSecret]
  | cons token rest => simp [Reading.isSecret, and_comm]

private theorem filterMap_secretEvents (tokens : List Token) :
    (secretEvents tokens).filterMap Event.diagnostic? = [] := by
  unfold secretEvents
  split <;> rfl

private theorem count_secretEvents (tokens : List Token) :
    (secretEvents tokens).count .secretDiscarded =
      if tokens.head?.map Token.kind = some .secret then 1 else 0 := by
  unfold secretEvents
  cases tokens with
  | nil => rfl
  | cons token rest =>
      by_cases secret : token.kind = .secret <;> simp [Reading.isSecret, secret]

end Services

namespace Reader

variable (reader : Reader) (input : String)

def earlierEvents : List Event :=
  .divided (Wording.ofInput input).formula (Wording.ofInput input).relation
      (Wording.ofInput input).target ::
    .tokenized (reader.wording input).formula
      ((reader.tokens input).map fun token => token.text) ::
    (Services.secretEvents (reader.tokens input) ++
      ((reader.reading input).gapDiagnostics (reader.tokens input)).map .recovered)

def laterDiagnostics : List Diagnostic :=
  (reader.reading input).leftoverDiagnostics ++
    reader.interpretation.checkDiagnostics (reader.wording input) (reader.tokens input).length

private theorem journal_eq_append :
    reader.journal input =
      reader.earlierEvents input ++
        .consumed (reader.reading input).consumed (reader.tokens input).length ::
        (reader.laterDiagnostics input).map .recovered := by
  simp [journal_eq, earlierEvents, laterDiagnostics]

private theorem diagnostics_read_eq_append :
    (reader.read input).diagnostics =
      (reader.reading input).gapDiagnostics (reader.tokens input) ++
        reader.laterDiagnostics input := by
  simp [read_eq, laterDiagnostics, Reading.diagnostics]

private theorem filterMap_earlierEvents :
    (reader.earlierEvents input).filterMap Event.diagnostic? =
      (reader.reading input).gapDiagnostics (reader.tokens input) := by
  simp only [earlierEvents, List.filterMap_cons, Event.diagnostic?, List.filterMap_append,
    Services.filterMap_secretEvents, Event.filterMap_recovered, List.nil_append]

private theorem cause_of_mem_earlierEvents {diagnostic : Diagnostic}
    (member : .recovered diagnostic ∈ reader.earlierEvents input) :
    diagnostic.cause = .missingNumber := by
  have told : diagnostic ∈ (reader.earlierEvents input).filterMap Event.diagnostic? :=
    List.mem_filterMap.mpr ⟨_, member, rfl⟩
  rw [filterMap_earlierEvents] at told
  exact Reading.cause_of_mem_gapDiagnostics told

private theorem cause_ne_of_mem_laterDiagnostics {diagnostic : Diagnostic}
    (member : diagnostic ∈ reader.laterDiagnostics input) : diagnostic.cause ≠ .missingNumber := by
  rcases List.mem_append.mp member with leftover | check
  · obtain ⟨count, cause⟩ := Reading.cause_of_mem_leftoverDiagnostics leftover
    simp [cause]
  · have ofCheck := reader.interpretation.isOfFormula_of_mem_checkDiagnostics check
    intro missing
    simp [missing, Cause.isOfFormula] at ofCheck

theorem count_secretDiscarded_journal :
    (reader.journal input).count .secretDiscarded =
      if (reader.tokens input).head?.map Token.kind = some .secret then 1 else 0 := by
  have apart (diagnostics : List Diagnostic) :
      (diagnostics.map Event.recovered).count .secretDiscarded = 0 := by
    simp [List.count_eq_zero]
  simp [journal_eq_append, earlierEvents, Services.count_secretEvents, apart]

/-- The messages about recoveries are those of the diagnostics, in order. The
end of the formula is noted once, between the missing numbers and the rest, and
a secret marker once if there is one. -/
theorem journal_tells_diagnostics :
    let journal := reader.journal input
    let tokens := Token.scan ((Wording.ofInput input).folding reader.options.foldsCase).formula
    (journal.map Event.message).filter Event.tellsRecovery =
      (reader.read input).diagnostics.map (fun diagnostic =>
        "recovering from " ++ diagnostic.message) ∧
    (∃ before after,
      journal = before ++ .consumed (Reading.ofTokens tokens).consumed tokens.length :: after ∧
      (∀ count total, Event.consumed count total ∉ before ++ after) ∧
      (∀ diagnostic, .recovered diagnostic ∈ before → diagnostic.cause = .missingNumber) ∧
      ∀ diagnostic, .recovered diagnostic ∈ after → diagnostic.cause ≠ .missingNumber) ∧
    journal.count .secretDiscarded =
      if tokens.head?.map Token.kind = some .secret then 1 else 0 := by
  intro journal tokens
  refine ⟨?_, ⟨reader.earlierEvents input, (reader.laterDiagnostics input).map .recovered,
    reader.journal_eq_append input, ?_, ?_, ?_⟩, reader.count_secretDiscarded_journal input⟩
  · rw [Event.filter_tellsRecovery, reader.diagnostics_read_eq_append]
    simp only [journal, journal_eq_append, List.filterMap_append, filterMap_earlierEvents,
      List.filterMap_cons, Event.diagnostic?, Event.filterMap_recovered]
  · simp [earlierEvents, Services.mem_secretEvents_iff]
  · intro diagnostic member
    exact reader.cause_of_mem_earlierEvents input member
  · intro diagnostic member
    obtain ⟨other, later, same⟩ := List.mem_map.mp member
    cases same
    exact reader.cause_ne_of_mem_laterDiagnostics input later

end Reader

end DiceLanguage
