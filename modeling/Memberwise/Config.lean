/-!
# Configuration

The options of a generation run and the names that generated code uses for its
members and variables.

Main definitions:

- {lit}`Options`: three switches, all off by default.
- {lit}`Names`: seven names, each with a default.
- {lit}`Config`: options and names together.
-/

namespace Memberwise

/-- The switches of a generation run. -/
structure Options where
  /-- Write the keyword {lit}`new` before constructor calls. -/
  useNewKeyword : Bool := false
  /-- Pass an optional key mapper through both conversions. -/
  addKeyMapper : Bool := false
  /-- Cast every scalar that is read from a map. -/
  noImplicitCasts : Bool := false
deriving DecidableEq, Repr

/-- The names used in generated code.  They are taken as they are given. -/
structure Names where
  toMap : String := "toMap"
  fromMap : String := "fromMap"
  apply : String := "apply"
  toString : String := "toString"
  /-- The map parameter of the conversion from a map. -/
  mapVariable : String := "map"
  /-- The parameter that holds the key mapper. -/
  keyMapper : String := "keyMapper"
  /-- The parameter of the key mapper itself. -/
  keyVariable : String := "key"
deriving DecidableEq, Repr

/-- The configuration of a generation run. -/
structure Config where
  options : Options := {}
  names : Names := {}
deriving DecidableEq, Repr

/-- Switches on every option that is on in either set of options. -/
def Options.union (left right : Options) : Options where
  useNewKeyword := left.useNewKeyword || right.useNewKeyword
  addKeyMapper := left.addKeyMapper || right.addKeyMapper
  noImplicitCasts := left.noImplicitCasts || right.noImplicitCasts

end Memberwise
