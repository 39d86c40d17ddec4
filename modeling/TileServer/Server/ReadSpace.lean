namespace TileServer

/-- Memory of `size` bytes. What is kept begins at `start`, and `room` bytes from there on are in
use for it and for what is read next. -/
structure ReadSpace where
  size : Nat
  start : Nat
  room : Nat
  deriving Repr, DecidableEq

namespace ReadSpace

def chunk : Nat := 8192

def fresh : ReadSpace := ⟨chunk, 0, chunk⟩

def reserve (space : ReadSpace) (kept more : Nat) : ReadSpace :=
  if kept + more ≤ space.room then space
  else if space.start + kept + more ≤ space.size then { space with room := kept + more }
  else if kept + more ≤ space.size ∧ kept ≤ space.start then
    { space with start := 0, room := space.size }
  else
    let size := max (2 * space.size) (space.start + kept + more)
    { space with size, room := size - space.start }

def pass (space : ReadSpace) (count : Nat) : ReadSpace :=
  { space with start := space.start + count, room := space.room - count }

end ReadSpace

end TileServer
