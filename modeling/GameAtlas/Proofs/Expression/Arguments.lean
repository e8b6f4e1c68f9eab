import Mathlib.Tactic
import GameAtlas.Proofs.Data.Outcome
import GameAtlas.Schema.Size

/-!
What bytes do to a size, by the names that they are bound to. None of these names is reserved. An
expression keeps the value that it has with fewer bytes when there are more; in particular one that
has a value when nothing is bound has it whatever the bytes before a field are. A name that is not
bound though a byte could have it is that of a byte behind the run.
-/

namespace GameAtlas.Expression

variable {bindings : Bindings} {text : String} {n : Nat}

/-- Only names of bytes are bound. -/
def BindsArguments (bindings : Bindings) : Prop := ∀ p ∈ bindings, ∃ i, p.1 = argumentName i

theorem bindsArguments_bindBytes (run : List UInt8) : BindsArguments (bindBytes run) := by
  intro p hp
  obtain ⟨⟨b, i⟩, _, rfl⟩ := List.mem_map.mp hp
  exact ⟨i, rfl⟩

/-- The name of a byte starts with the four characters before its number. -/
theorem argumentName_toList (i : Nat) :
    (argumentName i).toList = "ARG_".toList ++ (Text.padLeft 2 '0' (toString i)).toList := by
  rw [argumentName, String.toList_append]

theorem head?_argumentName (i : Nat) : (argumentName i).toList.head? = some 'A' := by
  rw [argumentName_toList]
  rfl

/-- No name of a byte is reserved. -/
theorem argumentName_ne {name : String} (h : (reserved? name).isSome) (i : Nat) :
    argumentName i ≠ name := by
  have hfirst := head?_argumentName i
  have hreserved : name = "_pow" ∨ name = "_lshift" ∨ name = "__builtins__" := by
    by_contra hother
    push Not at hother
    obtain ⟨hpow, hshift, hrecord⟩ := hother
    simp [reserved?, hpow, hshift, hrecord] at h
  rintro rfl
  rcases hreserved with hname | hname | hname
  all_goals
    rw [hname] at hfirst
    revert hfirst
    decide

theorem BindsArguments.lookup_reserved (h : BindsArguments bindings) {name : String}
    (hreserved : (reserved? name).isSome) : bindings.lookup name = none := by
  rw [List.lookup_eq_none_iff]
  intro p hp
  obtain ⟨i, hi⟩ := h p hp
  rw [hi]
  simpa using (argumentName_ne hreserved i).symm

/-- Where no reserved name is bound, the guarded operators are what they are. -/
theorem applicable_of_unbound
    (h : ∀ name, (reserved? name).isSome → bindings.lookup name = none) (op : BinaryOp) :
    applicable bindings op = true := by
  cases op with
  | power => simp [applicable, BinaryOp.guard?, h "_pow" rfl]
  | shiftLeft => simp [applicable, BinaryOp.guard?, h "_lshift" rfl]
  | _ => rfl

/-! ### Fewer bindings -/

/-- Bindings that say nothing else than others do, but perhaps less. -/
def Fewer (fewer more : Bindings) : Prop :=
  ∀ name, fewer.lookup name = none ∨ fewer.lookup name = more.lookup name

theorem fewer_nil (more : Bindings) : Fewer [] more := fun _ => .inl rfl

variable {fewer more : Bindings}

theorem nameValue_fewer (h : Fewer fewer more) (hmore : BindsArguments more) (name : String) :
    nameValue fewer name = nameValue more name ∨
      ∃ missing, nameValue fewer name = .error (.unbound missing) := by
  unfold nameValue
  by_cases htruth : name = truthName
  · rw [if_pos htruth, if_pos htruth]
    exact .inl rfl
  · rw [if_neg htruth, if_neg htruth]
    rcases h name with hnone | hsame
    · rw [hnone]
      cases hreserved : reserved? name with
      | none => exact .inr ⟨name, rfl⟩
      | some v =>
        rw [hmore.lookup_reserved (by simp [hreserved])]
        exact .inl rfl
    · rw [hsame]
      exact .inl rfl

theorem Fewer.lookup_reserved (h : Fewer fewer more) (hmore : BindsArguments more) {name : String}
    (hreserved : (reserved? name).isSome) : fewer.lookup name = none := by
  rcases h name with hnone | hsame
  · exact hnone
  · rw [hsame]
    exact hmore.lookup_reserved hreserved

/-- With fewer bindings an expression comes to the same, or a name in it is missing. The induction
is on the expression: operands that come to the same give the same operation. -/
theorem Expr.evaluate_fewer (h : Fewer fewer more) (hmore : BindsArguments more) (e : Expr) :
    e.evaluate fewer = e.evaluate more ∨
      ∃ missing, e.evaluate fewer = .error (.unbound missing) := by
  induction e with
  | integer n => exact .inl rfl
  | real x => exact .inl rfl
  | name text => exact nameValue_fewer h hmore text
  | unary op operand ih =>
    unfold Expr.evaluate
    rcases ih with hsame | ⟨missing, hmissing⟩
    · rw [hsame]
      exact .inl rfl
    · rw [hmissing]
      exact .inr ⟨missing, rfl⟩
  | binary op left right ihLeft ihRight =>
    unfold Expr.evaluate
    have happlicable : applicable fewer op = applicable more op := by
      rw [applicable_of_unbound (fun _ => h.lookup_reserved hmore) op,
        applicable_of_unbound (fun _ => hmore.lookup_reserved) op]
    rcases ihLeft with hleft | ⟨missing, hmissing⟩
    · rw [hleft, happlicable]
      cases left.evaluate more with
      | error fault => exact .inl rfl
      | ok a =>
        rcases ihRight with hright | ⟨missing, hmissing⟩
        · rw [hright]
          exact .inl rfl
        · rw [hmissing]
          exact .inr ⟨missing, rfl⟩
    · rw [hmissing]
      exact .inr ⟨missing, rfl⟩

theorem evaluateSize_fewer [Host] (h : Fewer fewer more) (hmore : BindsArguments more)
    (text : String) :
    evaluateSize text fewer = evaluateSize text more ∨
      ∃ missing, evaluateSize text fewer = .error (.failed (.unbound missing)) := by
  unfold evaluateSize
  cases literalSize? text with
  | some n => exact .inl rfl
  | none =>
    unfold evaluate
    cases Expr.read text with
    | error fault => exact .inl rfl
    | ok e =>
      simp only [bind, Except.bind]
      rcases e.evaluate_fewer h hmore with hsame | ⟨missing, hmissing⟩
      · rw [hsame]
        exact .inl rfl
      · rw [hmissing]
        exact .inr ⟨missing, rfl⟩

theorem evaluateSize_of_nil [Host] (h : BindsArguments bindings)
    (hsize : evaluateSize text [] = .ok n) :
    evaluateSize text bindings = .ok n := by
  rcases evaluateSize_fewer (fewer_nil bindings) h text with hsame | ⟨missing, hmissing⟩
  · rw [← hsame]
    exact hsize
  · rw [hmissing] at hsize
    cases hsize

/-! ### Bytes -/

/-- Bytes that are added behind a run leave the names of the run's bytes as they are. -/
theorem fewer_bindBytes_append (run more : List UInt8) :
    Fewer (bindBytes run) (bindBytes (run ++ more)) := by
  intro name
  rw [bindBytes.eq_def (run ++ more), List.take_append, List.zipIdx_append, List.map_append,
    ← bindBytes.eq_def, List.lookup_append]
  cases (bindBytes run).lookup name with
  | none => exact .inl rfl
  | some n => exact .inr rfl

/-- The name of a byte that stands for nothing is that of a byte behind the run. -/
theorem length_le_of_lookup_argumentName {run : List UInt8} (hrun : run.length ≤ maxArguments)
    {k : Nat} (h : (bindBytes run).lookup (argumentName k) = none) : run.length ≤ k := by
  by_contra hshort
  rw [not_le] at hshort
  rw [List.lookup_eq_none_iff] at h
  have hbound : (argumentName k, ((run[k].toNat : Nat) : Int)) ∈ bindBytes run := by
    rw [bindBytes, List.take_of_length_le hrun]
    refine List.mem_map.mpr ⟨(run[k], k), ?_, rfl⟩
    rw [List.mem_zipIdx_iff_getElem?]
    exact List.getElem?_eq_getElem hshort
  simpa using h _ hbound

end GameAtlas.Expression

namespace GameAtlas.Schema

/-- A size that is found without the bytes before is the size whatever they are. -/
theorem Attributes.resolvedSize_of_nil [Host] {a : Attributes} {bindings : Expression.Bindings}
    {n : Nat}
    (h : Expression.BindsArguments bindings) (hsize : a.resolvedSize [] = .ok n) :
    a.resolvedSize bindings = .ok n := by
  unfold resolvedSize at hsize ⊢
  cases hstated : a.size with
  | none =>
    rw [hstated] at hsize
    cases hsize
  | some text =>
    rw [hstated] at hsize
    dsimp only at hsize ⊢
    by_cases hblank : Text.trim text = ""
    · rw [if_pos hblank] at hsize
      cases hsize
    · rw [if_neg hblank, sizeOf] at hsize ⊢
      cases hfound : Expression.evaluateSize text [] with
      | error fault =>
        rw [hfound] at hsize
        cases hsize
      | ok size =>
        rw [hfound] at hsize
        rw [Expression.evaluateSize_of_nil h hfound]
        exact hsize

end GameAtlas.Schema
