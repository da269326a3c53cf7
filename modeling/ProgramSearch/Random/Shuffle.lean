/-
# ProgramSearch.Random.Shuffle -- random rearrangements

A list is shuffled by swapping each place in turn with a random partner at or before it. The
partners are cut from chunks: one draw below `m * (m + 1) * ... * (m + r - 1)`, a product that fits
a word, holds the partners of `r` places in a row, each the remainder by its own factor. The first
partner can only be the first place and takes no draw.
-/

import ProgramSearch.Random.KeyStream

namespace ProgramSearch.Random

/-! ## Drawing below a bound -/

/-- The number of values of a word. -/
def wordCount : Nat := Nat.pow 2 32

/-- A number below `bound` drawn at a place of the stream, and the place after the draw: the upper
half of a word times the bound. Where the lower half comes close to the next number a second word
decides whether the number is reached. -/
def draw (key : Key) (bound place : Nat) : Nat × Nat :=
  let product := (word key place).toNat * bound
  let high := product / wordCount
  let low := product % wordCount
  -- more bits of the fraction could carry into the upper half
  if low > wordCount - bound then
    let second := (word key (place + 1)).toNat * bound / wordCount
    (if low + second ≥ wordCount then high + 1 else high, place + 2)
  else (high, place + 1)

/-! ## Partners -/

/-- A chunk that partners are cut from. -/
structure Chunk where
  /-- What is left of the draw. -/
  value : Nat
  /-- How many partners are left in it. -/
  left : Nat
  /-- The place of the stream that the next draw starts at. -/
  place : Nat
  deriving Repr

/-- The product `bound * next * (next + 1) * ...` of as many factors as keep it within a word, and
the factor after them. -/
def chunkBound (bound next : Nat) : Nat × Nat :=
  if h : bound < bound * next ∧ bound * next < wordCount then chunkBound (bound * next) (next + 1)
  else (bound, next)
termination_by wordCount - bound

/-- A chunk with partners, the first of them for a place with `m` partners to choose from. -/
def Chunk.fill (key : Key) (m : Nat) (chunk : Chunk) : Chunk :=
  if chunk.left = 0 then
    let (bound, next) := chunkBound m (m + 1)
    let (value, place) := draw key bound chunk.place
    ⟨value, next - m, place⟩
  else chunk

/-- The next partner, one of `m`, and what is left of the chunk. The last partner of a chunk is all
that is left of its value. -/
def Chunk.next (key : Key) (m : Nat) (chunk : Chunk) : Nat × Chunk :=
  let chunk := chunk.fill key m
  if chunk.left = 1 then (chunk.value, { chunk with left := 0 })
  else (chunk.value % m, { chunk with value := chunk.value / m, left := chunk.left - 1 })

/-- The partners of `count` places from place `i` on. -/
def partnersFrom (key : Key) (i : Nat) (chunk : Chunk) : Nat → List Nat
  | 0 => []
  | count + 1 =>
    let (partner, chunk) := chunk.next key (i + 1)
    partner :: partnersFrom key (i + 1) chunk count

/-- The partners of the places of a list with `count` elements. -/
def partners (seed : UInt64) (count : Nat) : List Nat :=
  partnersFrom (keyOfSeed seed) 0 ⟨0, 1, 0⟩ count

/-! ## Shuffling -/

/-- Swaps the places from `i` on with their partners, one after the other. -/
def swapFrom {α : Type} (i : Nat) (xs : Array α) : List Nat → Array α
  | [] => xs
  | partner :: rest => swapFrom (i + 1) (xs.swapIfInBounds i partner) rest

/-- The list in the order that the seed gives it. -/
def shuffle {α : Type} (seed : UInt64) (xs : List α) : List α :=
  (swapFrom 0 xs.toArray (partners seed xs.length)).toList

end ProgramSearch.Random
