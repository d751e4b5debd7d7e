/-!
Closed lists of values that travel between an extension and its host as small numbers.
Main statements: a number is read as the value that carries it, and every value is read back from
its own number.
-/
namespace TypeHost

/-- Every value has a fixed number and a fixed printed name; no two values share a number. -/
class Numbered (α : Type) where
  values : List α
  code : α → Int32
  name : α → String
  find_code : ∀ v : α, values.find? (fun w => code w == code v) = some v

/-- The value with a given number; numbers outside the list, negative ones included, name nothing. -/
def ofCode? {α : Type} [Numbered α] (n : Int32) : Option α :=
  (Numbered.values (α := α)).find? fun v => Numbered.code v == n

theorem code_of_ofCode? {α : Type} [Numbered α] {n : Int32} {v : α} (h : ofCode? n = some v) :
    Numbered.code v = n := by
  have := List.find?_some h
  simpa using this

@[simp] theorem ofCode?_code {α : Type} [Numbered α] (v : α) :
    ofCode? (Numbered.code v) = some v := Numbered.find_code v

end TypeHost
