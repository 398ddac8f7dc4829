import DiceLanguage.Proofs.Arithmetic.Expression

/-!
# Beginnings of expressions

The symbols that lead to a stage of an evaluation are the beginning of an
expression, cut at the place in the grammar that the stage stands for. Within
open groups, what has been spelled is nested less deeply by their number.
-/

set_option autoImplicit false

namespace DiceLanguage.Arithmetic

def DerivesWithin (limit : Nat) (phrase : Phrase) (symbols : List Symbol) : Prop :=
  ∃ expression, Derives phrase symbols expression ∧ expression.depth ≤ limit

/-- Symbols after which a product must stand. -/
inductive OpensProduct (limit : Nat) : List Symbol → Prop where
  | first : OpensProduct limit []
  | joined {symbols} (sign : Sign) :
      DerivesWithin limit .sum symbols → OpensProduct limit (symbols ++ [.ofSign sign])

inductive OpensSigned (limit : Nat) : List Symbol → Prop where
  | first {opening} : OpensProduct limit opening → OpensSigned limit opening
  | scaled {opening symbols} (scaling : Scaling) :
      OpensProduct limit opening → DerivesWithin limit .product symbols →
      OpensSigned limit (opening ++ symbols ++ [.ofScaling scaling])

/-- Symbols after which an atom must stand, signs before it included. -/
inductive OpensAtom (limit : Nat) : List Symbol → Prop where
  | signs {opening} (signs : List Sign) :
      OpensSigned limit opening → OpensAtom limit (opening ++ signs.map Symbol.ofSign)

inductive OpensGroups : Nat → List Symbol → Prop where
  | none : OpensGroups 0 []
  | group {count outer symbols} :
      OpensGroups count outer → count < nestingLimit → OpensAtom (nestingLimit - count) symbols →
      OpensGroups (count + 1) (outer ++ symbols ++ [.opening])

inductive Leads : List Symbol → Stage → Prop where
  | awaiting {outer symbols pending} {around : List (Pending Int64)} :
      OpensGroups around.length outer → OpensAtom (nestingLimit - around.length) symbols →
      Leads (outer ++ symbols) (.awaiting pending around)
  | holding {outer opening symbols sum value} {around : List (Pending Int64)} :
      OpensGroups around.length outer → OpensProduct (nestingLimit - around.length) opening →
      DerivesWithin (nestingLimit - around.length) .product symbols →
      Leads (outer ++ (opening ++ symbols)) (.holding sum value around)

private theorem OpensGroups.count_le {count : Nat} {symbols : List Symbol}
    (opens : OpensGroups count symbols) : count ≤ nestingLimit := by
  cases opens with
  | none => exact Nat.zero_le _
  | group _ room _ => exact room

theorem OpensProduct.closed {limit : Nat} {opening symbols : List Symbol}
    (opens : OpensProduct limit opening) (derived : DerivesWithin limit .product symbols) :
    DerivesWithin limit .sum (opening ++ symbols) := by
  obtain ⟨product, derived, shallow⟩ := derived
  cases opens with
  | first => exact ⟨product, .term derived, shallow⟩
  | joined sign left =>
      obtain ⟨sum, leftDerived, leftShallow⟩ := left
      rw [List.append_assoc]
      exact ⟨_, .joined sign leftDerived derived, Nat.max_le.mpr ⟨leftShallow, shallow⟩⟩

/-- An atom completes the product that it stands in. -/
theorem OpensAtom.closed {limit : Nat} {opening atom : List Symbol}
    (opens : OpensAtom limit opening) (derived : DerivesWithin limit .atom atom) :
    ∃ sums product, opening ++ atom = sums ++ product ∧ OpensProduct limit sums ∧
      DerivesWithin limit .product product := by
  obtain ⟨operand, derived, shallow⟩ := derived
  obtain ⟨signs, opens⟩ := opens
  have signed := Derives.signed signs derived
  cases opens with
  | first opens =>
      exact ⟨_, _, List.append_assoc _ _ _, opens, _, .factor signed, shallow⟩
  | scaled scaling opens left =>
      obtain ⟨product, leftDerived, leftShallow⟩ := left
      exact ⟨_, _, by simp [List.append_assoc], opens, _, .scaled scaling leftDerived signed,
        Nat.max_le.mpr ⟨leftShallow, shallow⟩⟩

theorem exists_of_bind_eq_ok {α β : Type} {first : Except Fault α} {next : α → Except Fault β}
    {result : β} (succeeds : first >>= next = .ok result) :
    ∃ value, first = .ok value ∧ next value = .ok result := by
  cases first with
  | error fault => cases succeeds
  | ok value => exact ⟨value, rfl, succeeds⟩

variable {symbols : List Symbol} {next : Stage} {lexeme : Lexeme} {pending : Pending Int64}
  {around : List (Pending Int64)}

/-- No symbols lead to where an evaluation begins. -/
theorem Leads.initial : Leads [] Stage.initial := by
  have ungrouped : OpensGroups ([] : List (Pending Int64)).length [] := .none
  exact .awaiting ungrouped (.signs [] (.first .first))

private theorem Leads.complete {outer inner atom : List Symbol} {operand : Int64}
    (groups : OpensGroups around.length outer)
    (opens : OpensAtom (nestingLimit - around.length) inner)
    (derived : DerivesWithin (nestingLimit - around.length) .atom atom)
    (completed : Stage.complete pending around operand = .ok next) :
    Leads (outer ++ inner ++ atom) next := by
  obtain ⟨factor, _, completed⟩ := exists_of_bind_eq_ok completed
  obtain ⟨value, _, completed⟩ := exists_of_bind_eq_ok completed
  cases completed
  obtain ⟨sums, product, split, opens, derived⟩ := opens.closed derived
  rw [List.append_assoc, split]
  exact .holding groups opens derived

private theorem Leads.sign (leads : Leads symbols (.awaiting pending around)) (sign : Sign) :
    Leads (symbols ++ [.ofSign sign]) (.awaiting (pending.signed sign) around) := by
  cases leads with
  | awaiting groups opens =>
      obtain ⟨signs, opens⟩ := opens
      have signed := OpensAtom.signs (signs ++ [sign]) opens
      rw [List.map_append, ← List.append_assoc] at signed
      rw [List.append_assoc]
      exact .awaiting groups signed

private theorem Leads.opening (leads : Leads symbols (.awaiting pending around))
    (room : around.length ≠ nestingLimit) :
    Leads (symbols ++ [.opening]) (.awaiting .nothing (pending :: around)) := by
  cases leads with
  | awaiting groups opens =>
      have grouped : OpensGroups (pending :: around).length _ :=
        .group groups (Nat.lt_of_le_of_ne groups.count_le room) opens
      have start : OpensAtom (nestingLimit - (pending :: around).length) [] :=
        .signs [] (.first .first)
      simpa only [List.append_nil] using Leads.awaiting grouped start

private theorem Leads.takeOperand (leads : Leads symbols (.awaiting pending around))
    (taken : Stage.takeOperand pending around lexeme = .ok next) :
    Leads (symbols ++ [lexeme.symbol]) next := by
  unfold Stage.takeOperand at taken
  cases kind : lexeme.symbol with
  | plus =>
      rw [kind] at taken
      cases taken
      exact leads.sign .plus
  | minus =>
      rw [kind] at taken
      cases taken
      exact leads.sign .minus
  | literal value =>
      simp only [kind] at taken
      cases leads with
      | awaiting groups opens =>
          split at taken
          next operand word => exact .complete groups opens ⟨_, .literal, Nat.zero_le _⟩ taken
          next => cases taken
  | opening =>
      simp only [kind] at taken
      split at taken
      next => cases taken
      next room =>
        cases taken
        exact leads.opening room
  | star => simp [kind] at taken
  | slash => simp [kind] at taken
  | closing => simp [kind] at taken
  | unknown => simp [kind] at taken

section

variable {sum : Option (Int64 × Sign)} {value : Int64}

private theorem Leads.scaling (leads : Leads symbols (.holding sum value around))
    (scaling : Scaling) :
    Leads (symbols ++ [.ofScaling scaling])
      (.awaiting (.ofTerm sum value scaling) around) := by
  cases leads with
  | holding groups opens derived =>
      have scaled := OpensAtom.signs [] (.scaled scaling opens derived)
      rw [List.map_nil, List.append_nil] at scaled
      rw [List.append_assoc]
      exact .awaiting groups scaled

private theorem Leads.joining (leads : Leads symbols (.holding sum value around)) (sign : Sign)
    (result : Int64) :
    Leads (symbols ++ [.ofSign sign]) (.awaiting (.ofSum result sign) around) := by
  cases leads with
  | holding groups opens derived =>
      have joined := OpensAtom.signs [] (.first (.joined sign (opens.closed derived)))
      rw [List.map_nil, List.append_nil] at joined
      rw [List.append_assoc]
      exact .awaiting groups joined

/-- A closing parenthesis makes an atom of the innermost group. -/
private theorem Leads.closing {result : Int64}
    (leads : Leads symbols (.holding sum value (pending :: around)))
    (completed : Stage.complete pending around result = .ok next) :
    Leads (symbols ++ [.closing]) next := by
  cases leads with
  | holding groups opens derived =>
      obtain ⟨inner, derived, shallow⟩ := opens.closed derived
      cases groups with
      | group groups room opens =>
          have fits : (Expression.group inner).depth ≤ nestingLimit - around.length := by
            rw [Expression.depth]
            rw [List.length_cons] at shallow
            omega
          have leads := Leads.complete groups opens ⟨_, .group derived, fits⟩ completed
          simpa [List.append_assoc] using leads

end

private theorem Leads.takeOperator {sum : Option (Int64 × Sign)} {value : Int64}
    (leads : Leads symbols (.holding sum value around))
    (taken : Stage.takeOperator sum value around lexeme = .ok next) :
    Leads (symbols ++ [lexeme.symbol]) next := by
  unfold Stage.takeOperator at taken
  cases kind : lexeme.symbol with
  | star =>
      rw [kind] at taken
      cases taken
      exact leads.scaling .times
  | slash =>
      rw [kind] at taken
      cases taken
      exact leads.scaling .over
  | plus =>
      rw [kind] at taken
      obtain ⟨result, _, taken⟩ := exists_of_bind_eq_ok taken
      cases taken
      exact leads.joining .plus result
  | minus =>
      rw [kind] at taken
      obtain ⟨result, _, taken⟩ := exists_of_bind_eq_ok taken
      cases taken
      exact leads.joining .minus result
  | closing =>
      rw [kind] at taken
      obtain ⟨result, _, taken⟩ := exists_of_bind_eq_ok taken
      cases around with
      | nil => cases taken
      | cons pending outer => exact leads.closing taken
  | literal =>
      rw [kind] at taken
      obtain ⟨_, _, taken⟩ := exists_of_bind_eq_ok taken
      cases taken
  | opening =>
      rw [kind] at taken
      obtain ⟨_, _, taken⟩ := exists_of_bind_eq_ok taken
      cases taken
  | unknown =>
      rw [kind] at taken
      obtain ⟨_, _, taken⟩ := exists_of_bind_eq_ok taken
      cases taken

theorem Leads.takes {stage : Stage} {lexemes : List Lexeme} (leads : Leads symbols stage)
    (taken : lexemes.foldlM Stage.take stage = .ok next) :
    Leads (symbols ++ lexemes.map Lexeme.symbol) next := by
  induction lexemes generalizing symbols stage with
  | nil =>
      cases taken
      simpa only [List.map_nil, List.append_nil] using leads
  | cons lexeme rest ih =>
      obtain ⟨middle, first, others⟩ := exists_of_bind_eq_ok taken
      rw [List.map_cons, List.append_cons]
      refine ih ?_ others
      cases stage with
      | awaiting pending around => exact leads.takeOperand first
      | holding sum value around => exact leads.takeOperator first

/-- Lexemes that have a value spell an expression, not nested too deeply. -/
theorem exists_derives_of_evaluateLexemes {lexemes : List Lexeme} {value : Int64}
    (evaluated : evaluateLexemes lexemes = .ok value) :
    DerivesWithin nestingLimit .sum (lexemes.map Lexeme.symbol) := by
  obtain ⟨stage, taken, finished⟩ := exists_of_bind_eq_ok evaluated
  have leads := Leads.initial.takes taken
  cases stage with
  | awaiting => cases finished
  | holding sum value around =>
      obtain ⟨_, _, finished⟩ := exists_of_bind_eq_ok finished
      cases around with
      | cons => cases finished
      | nil =>
          -- No group is open, so the symbols outside of groups are all there are.
          generalize lexemes.map Lexeme.symbol = symbols at leads
          cases leads with
          | holding groups opens derived =>
              cases groups
              exact opens.closed derived

end DiceLanguage.Arithmetic
