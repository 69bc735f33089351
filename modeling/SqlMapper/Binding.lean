import SqlMapper.Template
import SqlMapper.Query
import SqlMapper.Text.Bytes

/-!
Binding a template to data. Each expression becomes its fragment, and the values
of the fragments become the parameters in the order of their markers. With
numbered placeholders the count starts after the parameters that stand before,
and spliced text is never counted. The first defect from the left is reported.
-/

namespace SqlMapper

def resolve (data : Mapping) (expression : List Char) :
    Except BindingError (Expression × Bindable) :=
  match Expression.read? expression with
  | none => .error (.unknownFlag (String.ofList expression))
  | some e =>
    match data.get? e.identifier with
    | none => .error (.missing e.identifier)
    | some value => .ok (e, value)

def Expression.render (e : Expression) (style : PlaceholderStyle) (bound : Nat)
    (value : Bindable) : String :=
  let text := (e.flag.fragment e.identifier value).text
  if e.flag.binds then style.render bound text else text

def Expression.values (e : Expression) (value : Bindable) : List Scalar :=
  (e.flag.fragment e.identifier value).values

/-- Binds what is left of the template `whole` after its first `consumed` bytes,
with `bound` parameters standing before. -/
def Template.bind (style : PlaceholderStyle) (data : Mapping) (whole : String) :
    (bound consumed : Nat) → Template → Except BindingError Query
  | _, _, .plain text => .ok ⟨String.ofList text, []⟩
  | _, consumed, .unclosed text _ => .error (.unclosed (consumed + Text.byteLength text) whole)
  | bound, consumed, .piece text expression rest => do
    let (e, value) ← resolve data expression
    let here : Query := ⟨String.ofList text ++ e.render style bound value, e.values value⟩
    let after ← rest.bind style data whole (bound + here.params.length)
      (consumed + Text.byteLength text + Text.byteLength expression + 2)
    return here ++ after

namespace Binding

/-- Binds a template with `bound` parameters already in the statement. They have all been
collected, so `bound` is a length and has no upper limit of its own. -/
def bindFrom (style : PlaceholderStyle) (bound : Nat) (template : String) (data : Mapping) :
    Except BindingError Query :=
  (Template.parse template).bind style data template bound 0

def bind (style : PlaceholderStyle) (template : String) (data : Mapping) :
    Except BindingError Query :=
  bindFrom style 0 template data

def bindJson (style : PlaceholderStyle) (template : String) (data : Json) :
    Except BindingError Query := do
  bind style template (← Mapping.ofJson data)

end Binding

end SqlMapper
