set_option autoImplicit false

namespace ParamGrid.Yaml

abbrev Tag := List UInt8

namespace Tag

def ofText (s : String) : Tag :=
  s.toList.flatMap String.utf8EncodeChar

-- A zero ends a tag wherever it stands in one of its parts.
def cut (octets : Tag) : Tag :=
  octets.takeWhile (· ≠ 0)

def core (name : String) : Tag :=
  ofText ("tag:yaml.org,2002:" ++ name)

inductive Scope where
  | file
  | broken
  | common
  deriving DecidableEq

def scope (tag : Tag) : Scope :=
  if tag.head? ≠ some '!'.toUInt8 then .common
  else if ByteArray.validateUTF8 ⟨tag.tail.toArray⟩ then .file
  else .broken

end Tag

end ParamGrid.Yaml
