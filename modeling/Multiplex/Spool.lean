import Multiplex.Octets

/-! Octets taken up piece by piece. Taking up another piece and telling how many octets there are
take no longer the more there are; they are put together when somebody asks for them. -/

namespace Multiplex

structure Spool where
  /-- Latest first. -/
  pieces : List Octets
  size : Nat
  size_eq : size = pieces.reverse.flatten.length

namespace Spool

def octets (s : Spool) : Octets := s.pieces.reverse.flatten

@[simp] theorem length_octets (s : Spool) : s.octets.length = s.size := s.size_eq.symm

def empty : Spool := ⟨[], 0, by simp⟩

@[simp] theorem octets_empty : empty.octets = [] := rfl

def push (s : Spool) (piece : Octets) : Spool where
  pieces := piece :: s.pieces
  size := s.size + piece.length
  size_eq := by simp [s.size_eq]

@[simp] theorem octets_push (s : Spool) (piece : Octets) :
    (s.push piece).octets = s.octets ++ piece := by
  simp [octets, push]

@[simp] theorem size_push (s : Spool) (piece : Octets) :
    (s.push piece).size = s.size + piece.length := rfl

@[simp] theorem size_empty : empty.size = 0 := rfl

end Spool
end Multiplex
