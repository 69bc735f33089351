import SqlMapper.Mapping

/-!
Values of ordinary types as scalars and as entries of a mapping. An optional
value that is absent is null, and a list is an entry of many scalars.
-/

namespace SqlMapper

class ToScalar (α : Type) where
  toScalar : α → Scalar

export ToScalar (toScalar)

instance : ToScalar Scalar := ⟨id⟩

instance : ToScalar Bool := ⟨.bool⟩

instance : ToScalar Int32 := ⟨fun n => .int n.toInt64⟩

instance : ToScalar Int64 := ⟨.int⟩

instance : ToScalar UInt32 := ⟨fun n => .int n.toUInt64.toInt64⟩

instance : ToScalar Float := ⟨.float⟩

instance : ToScalar String := ⟨.text⟩

instance {α : Type} [ToScalar α] : ToScalar (Option α) :=
  ⟨fun v => v.elim .null toScalar⟩

class ToBindable (α : Type) where
  toBindable : α → Bindable

export ToBindable (toBindable)

instance (priority := low) {α : Type} [ToScalar α] : ToBindable α := ⟨fun v => .one (toScalar v)⟩

instance {α : Type} [ToScalar α] : ToBindable (List α) := ⟨fun vs => .many (vs.map toScalar)⟩

instance : ToBindable Bindable := ⟨id⟩

end SqlMapper
