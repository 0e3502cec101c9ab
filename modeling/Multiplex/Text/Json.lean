import Multiplex.Text.Quoted

/-! Compact JSON, put together from texts of values. -/

namespace Multiplex
namespace Json

def object (fields : List (String × String)) : String :=
  let written := fields.map fun (name, value) => Quoted.json name ++ ":" ++ value
  "\x7b" ++ ",".intercalate written ++ "\x7d"

def array (values : List String) : String := "[" ++ ",".intercalate values ++ "]"

def optional (text : Option String) : String :=
  match text with
  | some text => Quoted.json text
  | none => "null"

end Json
end Multiplex
