import DiceLanguage.Proofs.Grammar
import DiceLanguage.Proofs.Reading.Accepting

/-!
# Moves between stages

All the ways in which a token that fits leads from one stage of a reading to
the next.
-/

set_option autoImplicit false

namespace DiceLanguage

def Scaling.kind : Scaling → TokenKind
  | .times => .star
  | .over => .slash

namespace Reading

inductive Stage.Moves (token : Token) : Stage → Stage → Prop where
  | signed {pending sign} :
      token.kind.sign? = some sign →
      Moves token (.awaiting (.operand pending)) (.awaiting (.operand (pending.signed sign)))
  | filled {slot value} :
      token.Denotes value → Moves token (.awaiting slot) (.whole (slot.fill value))
  | joined {formed sign} :
      token.kind.sign? = some sign →
      Moves token (.whole formed) (.awaiting (.operand (.ofSum formed.formula sign)))
  | scaled {formed} {scaling : Scaling} :
      token.kind = scaling.kind →
      Moves token (.whole formed)
        (.awaiting (.operand (.ofTerm formed.sum formed.product scaling)))
  | sides {pending count} :
      token.kind = .die →
      Moves token (.whole (.plain pending (.number count))) (.awaiting (.sides pending count))
  | critical {pending count size} :
      token.kind = .critical →
      Moves token (.whole (.plain pending (.dice count size)))
        (.awaiting (.critical pending count size))
  | rounded {pending term dividend rounding} :
      token.kind.rounding? = some rounding → pending.factor = some (dividend, .over) →
      Moves token (.whole (.plain pending term))
        (.whole (.rounded pending.sum (pending.product term (some rounding))))

variable {token : Token} {stage next : Stage}

private theorem Stage.moves_of_accept?_awaiting {slot : Slot}
    (accepted : (awaiting slot).accept? token = some next) : Moves token (.awaiting slot) next := by
  simp only [accept?] at accepted
  split at accepted
  next signed signs =>
    obtain ⟨sign, marks, signs⟩ := Option.bind_eq_some_iff.mp signs
    cases accepted
    cases slot <;> cases signs
    exact .signed marks
  next =>
    obtain ⟨value, denoted, rfl⟩ := Option.map_eq_some_iff.mp accepted
    exact .filled (Token.number?_eq_some_iff.mp denoted)

private theorem Stage.moves_of_rounded? {whole formed : Whole} {rounding : Rounding}
    (marks : token.kind.rounding? = some rounding)
    (rounded : whole.rounded? rounding = some formed) :
    Moves token (.whole whole) (.whole formed) := by
  cases whole with
  | rounded => cases rounded
  | plain pending term =>
      simp only [Whole.rounded?] at rounded
      split at rounded
      next dividend factor =>
        cases rounded
        exact .rounded marks factor
      next => cases rounded

private theorem Stage.moves_of_sides? {whole : Whole} {slot : Slot} (die : token.kind = .die)
    (sides : whole.sides? = some slot) : Moves token (.whole whole) (.awaiting slot) := by
  cases whole with
  | rounded => cases sides
  | plain pending term =>
      cases term with
      | number => cases sides; exact .sides die
      | _ => cases sides

private theorem Stage.moves_of_critical? {whole : Whole} {slot : Slot}
    (mark : token.kind = .critical)
    (critical : whole.critical? = some slot) : Moves token (.whole whole) (.awaiting slot) := by
  cases whole with
  | rounded => cases critical
  | plain pending term =>
      cases term with
      | dice => cases critical; exact .critical mark
      | _ => cases critical

private theorem Stage.moves_of_accept?_whole {whole : Whole}
    (accepted : (Stage.whole whole).accept? token = some next) :
    Moves token (.whole whole) next := by
  simp only [accept?] at accepted
  cases kind : token.kind with
  | plus =>
      have signs : token.kind.sign? = some .plus := by rw [kind]; rfl
      simp only [kind, Whole.extend?, Option.some.injEq] at accepted
      exact accepted ▸ .joined signs
  | minus =>
      have signs : token.kind.sign? = some .minus := by rw [kind]; rfl
      simp only [kind, Whole.extend?, Option.some.injEq] at accepted
      exact accepted ▸ .joined signs
  | star =>
      have scales : token.kind = Scaling.times.kind := kind
      simp only [kind, Whole.extend?, Option.some.injEq] at accepted
      exact accepted ▸ .scaled scales
  | slash =>
      have scales : token.kind = Scaling.over.kind := kind
      simp only [kind, Whole.extend?, Option.some.injEq] at accepted
      exact accepted ▸ .scaled scales
  | die =>
      simp only [kind, Whole.extend?, Option.map_eq_some_iff] at accepted
      obtain ⟨slot, sides, rfl⟩ := accepted
      exact moves_of_sides? kind sides
  | critical =>
      simp only [kind, Whole.extend?, Option.map_eq_some_iff] at accepted
      obtain ⟨slot, critical, rfl⟩ := accepted
      exact moves_of_critical? kind critical
  | roundUp =>
      simp only [kind, Whole.extend?, Option.map_eq_some_iff] at accepted
      obtain ⟨formed, rounded, rfl⟩ := accepted
      exact moves_of_rounded? (by rw [kind]; rfl) rounded
  | roundNearest =>
      simp only [kind, Whole.extend?, Option.map_eq_some_iff] at accepted
      obtain ⟨formed, rounded, rfl⟩ := accepted
      exact moves_of_rounded? (by rw [kind]; rfl) rounded
  | _ => simp [kind, Whole.extend?] at accepted

/-- A number goes nowhere but into a slot. -/
theorem Stage.Moves.filled_of_number (moves : Moves token stage next)
    (number : token.kind = .number) :
    ∃ slot value, stage = .awaiting slot ∧ next = .whole (slot.fill value) ∧
      token.Denotes value := by
  cases moves with
  | filled denotes => exact ⟨_, _, rfl, rfl, denotes⟩
  | signed marks | joined marks | rounded marks =>
      rw [number] at marks
      cases marks
  | @scaled _ scaling scales =>
      rw [number] at scales
      cases scaling <;> cases scales
  | sides kind | critical kind =>
      rw [number] at kind
      cases kind

theorem Stage.moves_of_accept? (accepted : stage.accept? token = some next) :
    Moves token stage next := by
  cases stage with
  | awaiting slot => exact moves_of_accept?_awaiting accepted
  | whole whole => exact moves_of_accept?_whole accepted

end Reading

end DiceLanguage
