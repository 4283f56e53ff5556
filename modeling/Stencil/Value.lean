import Stencil.Data.Table
import Stencil.Template

/-!
# Values

What templates compute with.  Host data comes in as plain values, as records of the host, and as
functions.  What a function or a method of the host does is named by a key, so that values are plain
data; the meaning of the keys is given when a template is rendered.
-/

namespace Stencil

/-- The kinds of arguments that a function can ask for. -/
inductive ParamKind where
  | any | bool | int | float | number | string | seq | map
deriving DecidableEq, Inhabited

mutual

/-- A value. -/
inductive Value where
  | nil
  | bool (b : Bool)
  | int (n : Int)
  | float (x : Float)
  | str (s : String)
  /-- A string that is written without escaping. -/
  | safe (s : String)
  | seq (items : List Value)
  | map (entries : List (String × Value))
  | record (r : HostRecord)
  | func (f : Function)

/-- A record of the host. -/
structure HostRecord where
  kind : String
  attrs : List (String × Value)
  items : List Value
  /-- The keys of what its methods do. -/
  methods : List (String × String)
  /-- What a loop visits, if the record can be looped over. -/
  visits : Option (List Value)
  size : Option Nat
  /-- Its text, if it is not the usual one. -/
  shown : Option String

/-- A function and its signature. -/
structure Function where
  name : String
  /-- The positional parameters, the optional ones among them. -/
  params : List ParamKind
  /-- How many of the parameters may be left out. -/
  optional : Nat
  /-- The kind of further arguments, if there may be any. -/
  variadic : Option ParamKind
  callback : Callback

/-- What a function does. -/
inductive Callback where
  /-- Runs a macro. -/
  | body (m : Macro)
  /-- Renders the next body of the current block. -/
  | super
  /-- Does what the host means by a key and a value. -/
  | host (key : String) (data : Value)

end

instance : Inhabited Value := ⟨.nil⟩

/-- Values by name. -/
abbrev Bindings := Table Value

end Stencil
