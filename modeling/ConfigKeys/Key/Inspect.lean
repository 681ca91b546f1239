import ConfigKeys.KeySet.Basic
import ConfigKeys.Text.Quoted

/-!
# Keys as people see them who look for a fault

## Main definitions

* `Name.inspect`, `Pool.inspect`, `Pool.inspectHandle`, `KeySet.inspect`.
-/

namespace ConfigKeys

/-- A name with its type. -/
def Name.inspect (n : Name) : String := "KeyName(" ++ Quoted.quote n.canonical ++ ")"

namespace Pool

/-- A key: its name, its text or the length of its bytes, and how many entries its metadata has. -/
def inspect (p : Pool) (k : Key) : String :=
  let value := p.value k
  let shown :=
    if value.binary then "binary: " ++ toString value.bytes.length
    else "value: " ++ Quoted.quote value.text
  "Key \x7b name: " ++ (p.name k).inspect ++ ", " ++ shown ++ ", meta: "
    ++ toString (p.entries k).length ++ " \x7d"

/-- A key of which only the name is shown. -/
def inspectHandle (p : Pool) (k : Key) : String := "KeyHandle(" ++ (p.name k).inspect ++ ")"

end Pool

/-- The keys of a set. -/
def KeySet.inspect (p : Pool) (s : KeySet) : String :=
  "[" ++ ", ".intercalate (s.toList.map p.inspect) ++ "]"

end ConfigKeys
