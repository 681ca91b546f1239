import ConfigKeys.Charset.Label
import ConfigKeys.Plugin.Info

/-!
# The charset filter

A plugin that converts texts and comments between the charset of an application and that of a store.
A stage converts all of a set or nothing of it.

## Main definitions

* `CharsetFilter` — an instance.
* `Charset.convert` — a byte sequence converted from one charset to another.
* `CharsetFilter.plan` — what a stage is to store in which record, or the first field that cannot be
  converted.
* `CharsetFilter.onOpen`, `CharsetFilter.run` — the stages.
-/

namespace ConfigKeys

/-- Why a byte sequence cannot be converted. -/
inductive ConversionFault
  /-- It is malformed in the charset that it comes from. -/
  | malformed (source : Charset)
  /-- It has a character that the charset it goes to lacks. -/
  | unmappable (target : Charset)
  deriving DecidableEq

/-- The text that people read. -/
def ConversionFault.message : ConversionFault → String
  | .malformed source => s!"not valid {source.name}"
  | .unmappable target => s!"not representable in {target.name}"

/-- A byte sequence converted from one charset to another. -/
def Charset.convert (source target : Charset) (bytes : List UInt8) :
    Except ConversionFault (List UInt8) :=
  match source.decode? bytes with
  | none => .error (.malformed source)
  | some text =>
    match target.encode? text with
    | none => .error (.unmappable target)
    | some bytes => .ok bytes

/-- The two charsets of a filter. -/
structure CharsetPair where
  /-- The charset of the application. -/
  application : Charset
  /-- The charset of the store. -/
  storage : Charset
  deriving DecidableEq

/-- An instance of the charset filter. -/
structure CharsetFilter where
  /-- How it is set up. -/
  config : Config := {}
  /-- The charsets, once it is open. -/
  charsets : Option CharsetPair := none

namespace CharsetFilter

/-- The name of the plugin. -/
def pluginName : String := "iconv"

/-- What the plugin says about itself. -/
def info : PluginInfo :=
  { PluginInfo.named pluginName with
    licence := "BSD"
    description := "Converts string values and comments between charsets"
    version := "0.1.0"
    provides := ["conv"] }

/-- Whether the charsets differ, so that there is something to convert. -/
def needsConversion (f : CharsetFilter) : Bool :=
  match f.charsets with
  | none => false
  | some c => c.application ≠ c.storage

/-- A stage that fails with a report on the key that it was given. -/
def fail (p : Pool) (k : Key) (r : Report) : Status × Pool := (.error, r.attach p k)

/-! ### Opening -/

/-- The charset that an entry of the set-up names, or what is wrong with it. -/
def resolve (p : Pool) (c : Config) (entry : String) : Except String Charset :=
  let label := (c.get? p entry).getD Charset.utf8.name
  match Charset.ofLabel? label with
  | none => .error s!"unknown charset '{label}' in /{entry}"
  | some charset =>
    if charset.isWritable then .ok charset
    else .error s!"charset '{label}' in /{entry} cannot be written"

/-- The charsets that a set-up names, or what is wrong with the first that is not fit. -/
def resolvePair (p : Pool) (c : Config) : Except String CharsetPair := do
  let application ← resolve p c "from"
  let storage ← resolve p c "to"
  .ok ⟨application, storage⟩

/-- Gets ready. -/
def onOpen (p : Pool) (f : CharsetFilter) (k : Key) : Status × Pool × CharsetFilter :=
  match resolvePair p f.config with
  | .ok charsets => (.success, p, { f with charsets := some charsets })
  | .error reason =>
    let (status, p) := fail p k (.installation pluginName reason)
    (status, p, f)

/-! ### Converting -/

/-- The fields of a key that hold text, with their names: its value, and its comment. -/
def fields (p : Pool) (k : Key) : List (String × Key) :=
  (if (p.value k).binary then [] else [("value", k)])
    ++ (p.meta? k "comment").toList.map (("comment", ·))

/-- The report of a field that cannot be converted. -/
def fieldReport (p : Pool) (k : Key) (field : String) (fault : ConversionFault) : Report :=
  .validation pluginName s!"{field} of {(p.name k).canonical}: {fault.message}"

/-- What fields become. -/
def planFields (p : Pool) (source target : Charset) (k : Key) :
    List (String × Key) → Except Report (List (Key × List UInt8))
  | [] => .ok []
  | (field, holder) :: rest => do
    match source.convert target (p.value holder).bytes with
    | .error fault => .error (fieldReport p k field fault)
    | .ok bytes => .ok ((holder, bytes) :: (← planFields p source target k rest))

/-- What the fields of keys become, after what was `planned`, the last one first. -/
def planAfter (p : Pool) (source target : Charset) (planned : List (Key × List UInt8)) :
    List Key → Except Report (List (Key × List UInt8))
  | [] => .ok planned.reverse
  | k :: rest =>
    match planFields p source target k (fields p k) with
    | .error report => .error report
    | .ok found => planAfter p source target (found.reverse ++ planned) rest

/-- What the fields of keys become, or the report of the first that cannot be converted. -/
def plan (p : Pool) (source target : Charset) (keys : List Key) :
    Except Report (List (Key × List UInt8)) :=
  planAfter p source target [] keys

/-- Stores a planned text, unless it is there already; `count` were stored before. -/
def store (p : Pool) (count : Nat) (holder : Key) (bytes : List UInt8) : Pool × Nat :=
  if (p.value holder).bytes = bytes then (p, count)
  else (p.setValue holder (.encoded bytes), count + 1)

/-- Converts the texts and comments of a set. -/
def convert (p : Pool) (keys : KeySet) (parent : Key) (source target : Charset) : Status × Pool :=
  if source = target then (.noUpdate, p)
  else
    match plan p source target keys.toList with
    | .error report => fail p parent report
    | .ok planned =>
      let (p, count) := planned.foldl (fun (p, count) (k, bytes) => store p count k bytes) (p, 0)
      (.ofCount count, p)

/-- Runs a stage other than the opening: a write converts towards the store, a read and the taking
back of a write towards the application. -/
def onKeys (stage : Stage) (p : Pool) (f : CharsetFilter) (keys : KeySet) (parent : Key) :
    Status × Pool :=
  match f.charsets with
  | none => fail p parent (.tooEarly pluginName stage)
  | some c =>
    match stage with
    | .set => convert p keys parent c.application c.storage
    | _ => convert p keys parent c.storage c.application

/-- Runs a stage; the key is the parent, or the key for reports. -/
def run (stage : Stage) (p : Pool) (f : CharsetFilter) (keys : KeySet) (k : Key) :
    Status × Pool × CharsetFilter :=
  match stage with
  | .opening => f.onOpen p k
  | .close => (.success, p, { f with charsets := none })
  | stage =>
    let (status, p) := f.onKeys stage p keys k
    (status, p, f)

end CharsetFilter

end ConfigKeys
