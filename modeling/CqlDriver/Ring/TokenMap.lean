/-
The ring: which node owns which token. A token that is announced twice belongs
to the last node that announces it. A walk along the ring starts at the first
token that is not below a given one, and goes once around.
-/

import CqlDriver.Ring.Token

namespace CqlDriver

/-- The tokens of the ring in ascending order, each with its owner. -/
structure TokenMap (Owner : Type) where
  entries : List (Token × Owner)
  deriving Repr

namespace TokenMap

variable {Owner : Type}

instance : Inhabited (TokenMap Owner) := ⟨⟨[]⟩⟩

def empty : TokenMap Owner := ⟨[]⟩

def place (token : Token) (owner : Owner) : List (Token × Owner) → List (Token × Owner)
  | [] => [(token, owner)]
  | entry :: rest =>
      if token.before entry.1 then (token, owner) :: entry :: rest
      else if entry.1.before token then entry :: place token owner rest
      else (token, owner) :: rest

def insert (ring : TokenMap Owner) (token : Token) (owner : Owner) : TokenMap Owner :=
  ⟨place token owner ring.entries⟩

def build (owners : List (Owner × List Token)) : TokenMap Owner :=
  owners.foldl
    (fun ring announced =>
      announced.2.foldl (fun ring token => ring.insert token announced.1) ring)
    empty

def size (ring : TokenMap Owner) : Nat := ring.entries.length

def isEmpty (ring : TokenMap Owner) : Bool := ring.entries.isEmpty

/-- The entries in the order of a walk that starts at a token. -/
def walk (ring : TokenMap Owner) (token : Token) : List (Token × Owner) :=
  (ring.entries.filter fun entry => !entry.1.before token)
    ++ ring.entries.filter fun entry => entry.1.before token

/-- The owner of a token: that of the first token on the walk. -/
def owner? (ring : TokenMap Owner) (token : Token) : Option Owner :=
  (ring.walk token).head?.map (·.2)

/-- The first so many owners on the walk from a token, each once. -/
def firstOwners [BEq Owner] (ring : TokenMap Owner) (token : Token) (count : Nat) : List Owner :=
  ((ring.walk token).map (·.2)).eraseDups.take count

/-- The largest number of owners for which room can be made at once. An owner takes eight
bytes, and no room has 2 ^ 63 bytes. -/
def mostReplicas : Nat := 0x0FFFFFFFFFFFFFFF

/-- The first so many owners on the walk from a token. Room is made beforehand for as many as
are asked for, not for as many as there are; `none` if that much room cannot be. -/
def replicas [BEq Owner] (ring : TokenMap Owner) (token : Token) (count : Nat) :
    Option (List Owner) :=
  if mostReplicas < count then none else some (ring.firstOwners token count)

theorem replicas_eq_none_iff [BEq Owner] (ring : TokenMap Owner) (start : Token) (count : Nat) :
    ring.replicas start count = none ↔ 0x1000000000000000 ≤ count := by
  unfold replicas mostReplicas
  split
  case isTrue crowded => exact iff_of_true rfl (by omega)
  case isFalse fits => exact iff_of_false nofun (by omega)

theorem eq_of_replicas [BEq Owner] {ring : TokenMap Owner} {start : Token} {count : Nat}
    {listed : List Owner} (found : ring.replicas start count = some listed) :
    listed = ring.firstOwners start count := by
  unfold replicas at found
  split at found
  · cases found
  · exact (Option.some.inj found).symm

end TokenMap

end CqlDriver
