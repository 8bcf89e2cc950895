import CatalogQuery.Toml.Document

/-! # Faults of TOML texts

Why a text is no document: the place where reading it ends, what was being read there, and what
could have stood there.

Main definitions: `Toml.Fault` and `Toml.Fault.message`.
-/

namespace CatalogQuery.Toml

/-- What is wrong with something of the right form. -/
inductive Reason where
  | outOfRange
  | tooLarge
  | tooSmall
  /-- Too many tables or arrays stand in each other. -/
  | tooDeep
  | conflict (c : Conflict)
  deriving DecidableEq, Repr

def Reason.message : Reason → String
  | .outOfRange => "value is out of range"
  | .tooLarge => "number too large to fit in target type"
  | .tooSmall => "number too small to fit in target type"
  | .tooDeep => "recursion limit exceeded"
  | .conflict c => c.message

structure Fault where
  /-- The number of bytes in front of the place. -/
  offset : Nat
  /-- No other reading is tried. -/
  isFinal : Bool := false
  /-- What was being read. -/
  subject : Option String := none
  /-- What could have stood at the place. -/
  wanted : List String := []
  reason : Option Reason := none
  deriving DecidableEq, Repr

namespace Fault

/-- The fault when reading a part of something. What is known of the part comes first. -/
def within (subject : String) (fault : Fault) : Fault :=
  { fault with subject := fault.subject.or subject }

/-- The fault at a place where something else could have stood, too. -/
def orWanted (wanted : List String) (fault : Fault) : Fault :=
  { fault with wanted := fault.wanted ++ wanted }

def message (fault : Fault) : String :=
  let subject := fault.subject.toList.map ("invalid " ++ ·)
  let wanted := if fault.wanted.isEmpty then [] else ["expected " ++ ", ".intercalate fault.wanted]
  "\n".intercalate (subject ++ wanted ++ (fault.reason.map Reason.message).toList)

end Fault

end CatalogQuery.Toml
