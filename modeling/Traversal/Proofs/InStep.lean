import Mathlib.Data.List.Forall2
import Traversal.Query.Pieces
import Traversal.Proofs.Reading

/-! Readers in step. A reader of trees and a reader of pieces that follow the same rule of the grammar
find something in the same texts and stop at the same places; what they find differs in kind, but it
fits. Every combinator keeps two readers in step, so readers built alike are in step. -/
namespace Traversal.Reader

variable {α β γ δ : Type}

/-- From every place either both readers find nothing, or both find something and stop at the same
place, and what they find fits. -/
def InStep (left : Reader α) (right : Reader β) (fits : α → β → Prop) : Prop :=
  ∀ here, (left here).found = none ∧ (right here).found = none ∨
    ∃ a b there, (left here).found = some (a, there) ∧ (right here).found = some (b, there) ∧
      fits a b

variable {left other : Reader α} {right other' : Reader β} {fits fits' : α → β → Prop}
  {next : α → Reader γ} {next' : β → Reader δ} {result : γ → δ → Prop}

theorem InStep.mono (step : InStep left right fits) (weaker : ∀ a b, fits a b → fits' a b) :
    InStep left right fits' := by
  intro here
  rcases step here with failed | ⟨a, b, there, found, found', fit⟩
  · exact Or.inl failed
  · exact Or.inr ⟨a, b, there, found, found', weaker a b fit⟩

/-- Every reader is in step with itself. -/
theorem InStep.same (reader : Reader α) : InStep reader reader Eq := by
  intro here
  cases found : (reader here).found with
  | none => exact Or.inl ⟨rfl, rfl⟩
  | some found => exact Or.inr ⟨_, _, _, rfl, rfl, rfl⟩

theorem InStep.pure {a : α} {b : β} (fit : fits a b) :
    InStep (pure a : Reader α) (pure b : Reader β) fits :=
  fun here => Or.inr ⟨a, b, here, rfl, rfl, fit⟩

theorem InStep.never : InStep (never : Reader α) (never : Reader β) fits :=
  fun _ => Or.inl ⟨rfl, rfl⟩

theorem InStep.bind (first : InStep left right fits)
    (second : ∀ a b, fits a b → InStep (next a) (next' b) result) :
    InStep (left >>= next) (right >>= next') result := by
  intro here
  rcases first here with ⟨failed, failed'⟩ | ⟨a, b, there, found, found', fit⟩
  · exact Or.inl ⟨found_bind_none failed, found_bind_none failed'⟩
  · rw [found_bind found, found_bind found']
    exact second a b fit there

/-- What is skipped does not matter to what is found behind it. -/
theorem InStep.behind (reader : Reader γ) (step : InStep left right fits) :
    InStep (reader >>= fun _ => left) (reader >>= fun _ => right) fits :=
  InStep.bind (InStep.same reader) fun _ _ _ => step

theorem InStep.map {change : α → γ} {fits' : γ → β → Prop} (step : InStep left right fits)
    (carries : ∀ a b, fits a b → fits' (change a) b) : InStep (change <$> left) right fits' := by
  intro here
  change _ ∨ ∃ a b there, ((left >>= fun a => Pure.pure (change a)) here).found = _ ∧ _
  rcases step here with ⟨failed, failed'⟩ | ⟨a, b, there, found, found', fit⟩
  · exact Or.inl ⟨found_bind_none failed, failed'⟩
  · exact Or.inr ⟨change a, b, there, found_bind found, found', carries a b fit⟩

theorem InStep.orElse (first : InStep left right fits) (second : InStep other other' fits) :
    InStep (orElse left other) (orElse right other') fits := by
  intro here
  simp only [Reader.orElse]
  rcases first here with ⟨failed, failed'⟩ | ⟨a, b, there, found, found', fit⟩
  · rw [failed, failed']
    exact second here
  · simp only [found, found']
    exact Or.inr ⟨a, b, there, rfl, rfl, fit⟩

theorem InStep.construct (name : Construct) (step : InStep left right fits) :
    InStep (construct name left) (construct name right) fits := by
  intro here
  rw [found_construct, found_construct]
  exact step here

theorem InStep.many (step : InStep left right fits) :
    InStep (many left) (many right) (List.Forall₂ fits) := by
  intro here
  induction here using Reader.many.induct left with
  | case1 here reading failed =>
    rcases step here with ⟨failed, failed'⟩ | ⟨a, b, there, found, found', fit⟩
    · rw [Reader.many, Reader.many, failed, failed']
      exact Or.inr ⟨[], [], here, rfl, rfl, .nil⟩
    · cases found.symm.trans failed
  | case2 here reading value middle begun shorter ih =>
    rcases step here with ⟨failed, -⟩ | ⟨a, b, there, found, found', fit⟩
    · cases failed.symm.trans begun
    cases found.symm.trans begun
    rw [Reader.many, Reader.many]
    simp only [found, found', shorter, ↓reduceIte]
    rcases ih with ⟨failed, failed'⟩ | ⟨values, values', last, found, found', fit'⟩
    · rw [failed, failed']
      exact Or.inl ⟨rfl, rfl⟩
    · rw [found, found']
      exact Or.inr ⟨_, _, last, rfl, rfl, .cons fit fit'⟩
  | case3 here reading value middle begun idle =>
    rcases step here with ⟨failed, -⟩ | ⟨a, b, there, found, found', fit⟩
    · cases failed.symm.trans begun
    cases found.symm.trans begun
    rw [Reader.many, Reader.many]
    simp only [found, found', idle, ↓reduceIte]
    exact Or.inr ⟨_, _, _, rfl, rfl, .cons fit .nil⟩

end Traversal.Reader
