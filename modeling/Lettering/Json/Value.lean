/-!
# JSON values

The values that a JSON text denotes. Objects keep their members in the order of the text, repeated
names included; what a repetition means is for the reader of the object to say.

* A number written as an integer that fits 64 bits is an `int`; every other number is a `real` and
  keeps its spelling, since nothing here computes with it.
* `unreadable` stands for a literal of the right form without a value: a string with half of a
  surrogate pair, or a number beyond the largest double. Such a text is refused only where the
  value is asked for.
-/

namespace Lettering

/-- A JSON value. -/
inductive Json where
  | null
  | bool (b : Bool)
  | int (n : Int)
  | real (spelling : String)
  | str (s : String)
  | arr (items : List Json)
  | obj (members : List (String × Json))
  | unreadable

namespace Json

mutual

/-- Whether every part of the value can be read. -/
def isReadable : Json → Bool
  | unreadable => false
  | arr items => allReadable items
  | obj members => membersReadable members
  | _ => true

/-- Whether every item of a list can be read. -/
def allReadable : List Json → Bool
  | [] => true
  | item :: rest => item.isReadable && allReadable rest

/-- Whether the value of every member can be read. -/
def membersReadable : List (String × Json) → Bool
  | [] => true
  | (_, value) :: rest => value.isReadable && membersReadable rest

end

mutual

/-- The number of arrays and objects around the innermost value. -/
def depth : Json → Nat
  | arr items => 1 + itemsDepth items
  | obj members => 1 + membersDepth members
  | _ => 0

/-- The greatest depth in a list. -/
def itemsDepth : List Json → Nat
  | [] => 0
  | item :: rest => Nat.max item.depth (itemsDepth rest)

/-- The greatest depth among members. -/
def membersDepth : List (String × Json) → Nat
  | [] => 0
  | (_, value) :: rest => Nat.max value.depth (membersDepth rest)

end

/-! ## 1. Members -/

/-- The member of a name; of several, the last. -/
def member? (members : List (String × Json)) (name : String) : Option Json :=
  members.reverse.lookup name

/-- Whether a name occurs more than once. -/
def repeats (members : List (String × Json)) (name : String) : Bool :=
  1 < (members.filter fun m => m.1 == name).length

/-- Stores a member: a name that is there already keeps its place and takes the new value. -/
def putMember (members : List (String × Json)) (name : String) (value : Json) :
    List (String × Json) :=
  if members.any fun m => m.1 == name then
    members.map fun m => if m.1 == name then (name, value) else m
  else members ++ [(name, value)]

/-- The members without repetitions: each name at its first place with its last value. -/
def distinct (members : List (String × Json)) : List (String × Json) :=
  members.foldl (fun acc m => putMember acc m.1 m.2) []

end Json

end Lettering
