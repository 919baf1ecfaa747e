/-
# Pattern-defeating quicksort

The unstable sort of the table library: quicksort whose pivot is the median
of three places (of three medians of three on long ranges), with insertion
sort on ranges of at most twelve elements, a check for ranges that are
already sorted or reversed, a partition that gathers runs of equal
elements, a few deterministic swaps that break up patterns after an
unbalanced partition, and heapsort once too many partitions were
unbalanced.

The sort sees its sequence only through two operations on positions: a
comparison, which may have effects and may fail, and a swap.  Which
comparisons are made, in which order, and which swaps follow is fixed by
the algorithm alone, so a comparison that counts its calls or fails part way
sees the same history every time, and the sequence is left as the swaps so
far made it.

Every loop is bounded by the length of the range it works on, which is
passed on as fuel.
-/

namespace MudClient.Order

/-- The two operations a sort performs on a sequence, by position. -/
structure Ops (m : Type → Type) where
  less : Nat → Nat → m Bool
  swap : Nat → Nat → m Unit

/-- What the choice of a pivot saw of the order of its samples. -/
inductive Hint where
  | unknown
  | increasing
  | decreasing
deriving DecidableEq, Repr

def bitLength (n : Nat) : Nat := if n = 0 then 0 else Nat.log2 n + 1

variable {m : Type → Type} [Monad m] (o : Ops m)

/-- Moves the element at `j` down past the larger ones before it, not below
`a`. -/
def shiftDown (a : Nat) : Nat → Nat → m Unit
  | _, 0 => pure ()
  | j, fuel + 1 =>
    if a < j then do
      if ← o.less j (j - 1) then
        o.swap j (j - 1)
        shiftDown a (j - 1) fuel
    else pure ()

def insertionSort (a b : Nat) : m Unit := do
  for i in [a + 1:b] do
    shiftDown o a i (i - a)

/-- Lets the element at `root` sink in the heap of the `hi` places from
`first`. -/
def siftDown (hi first : Nat) : Nat → Nat → m Unit
  | _, 0 => pure ()
  | root, fuel + 1 => do
    let child := 2 * root + 1
    if child ≥ hi then pure ()
    else
      let child ← if child + 1 < hi then do
          if ← o.less (first + child) (first + child + 1) then pure (child + 1) else pure child
        else pure child
      if ← o.less (first + root) (first + child) then
        o.swap (first + root) (first + child)
        siftDown hi first child fuel

def heapSort (a b : Nat) : m Unit := do
  let hi := b - a
  for k in [0:(hi + 1) / 2] do
    siftDown o hi a ((hi - 1) / 2 - k) hi
  for k in [0:hi] do
    let i := hi - 1 - k
    o.swap a (a + i)
    siftDown o i a 0 hi

/-- The first place from `i` on, not beyond `j`, whose element is not less
than the pivot at `a`. -/
def scanUp (a j : Nat) : Nat → Nat → m Nat
  | i, 0 => pure i
  | i, fuel + 1 =>
    if i ≤ j then do
      if ← o.less i a then scanUp a j (i + 1) fuel else pure i
    else pure i

/-- The last place from `j` down, not before `i`, whose element is less
than the pivot at `a`; `i - 1` when there is none. -/
def scanDown (a i : Nat) : Nat → Nat → m Nat
  | j, 0 => pure j
  | j, fuel + 1 =>
    if i ≤ j then do
      if ← o.less j a then pure j else scanDown a i (j - 1) fuel
    else pure j

/-- Swaps the elements out of place between `i` and `j` around the pivot
at `a` until the two scans meet; answers where the last scan stopped. -/
def exchange (a : Nat) : Nat → Nat → Nat → m Nat
  | _, j, 0 => pure j
  | i, j, fuel + 1 => do
    let i ← scanUp o a j i (j + 1 - i)
    let j ← scanDown o a i j (j + 1 - i)
    if i > j then pure j
    else
      o.swap i j
      exchange a (i + 1) (j - 1) fuel

/-- Partitions the range from `a` to `b` around the element at `pivot`:
the smaller elements before it, the others after it.  Answers the pivot's
new place and whether no element had to move. -/
def partition (a b pivot : Nat) : m (Nat × Bool) := do
  o.swap a pivot
  let i ← scanUp o a (b - 1) (a + 1) (b - a)
  let j ← scanDown o a i (b - 1) (b - a)
  if i > j then
    o.swap j a
    pure (j, true)
  else
    o.swap i j
    let j ← exchange o a (i + 1) (j - 1) (b - a)
    o.swap j a
    pure (j, false)

/-- The first place from `i` on, not beyond `j`, whose element is greater
than the pivot at `a`. -/
def scanEqual (a j : Nat) : Nat → Nat → m Nat
  | i, 0 => pure i
  | i, fuel + 1 =>
    if i ≤ j then do
      if ← o.less a i then pure i else scanEqual a j (i + 1) fuel
    else pure i

/-- The last place from `j` down, not before `i`, whose element is not
greater than the pivot at `a`. -/
def scanGreater (a i : Nat) : Nat → Nat → m Nat
  | j, 0 => pure j
  | j, fuel + 1 =>
    if i ≤ j then do
      if ← o.less a j then scanGreater a i (j - 1) fuel else pure j
    else pure j

/-- Swaps elements equal to the pivot at `a` before the greater ones;
answers where the equal ones end. -/
def gatherEqual (a : Nat) : Nat → Nat → Nat → m Nat
  | i, _, 0 => pure i
  | i, j, fuel + 1 => do
    let i ← scanEqual o a j i (j + 1 - i)
    let j ← scanGreater o a i j (j + 1 - i)
    if i > j then pure i
    else
      o.swap i j
      gatherEqual a (i + 1) (j - 1) fuel

/-- Partitions a range holding no element below the one at `pivot` into the
elements equal to it and those greater; answers where the greater ones
start. -/
def partitionEqual (a b pivot : Nat) : m Nat := do
  o.swap a pivot
  gatherEqual o a (a + 1) (b - 1) (b - a)

/-- The first place from `i` on, before `b`, whose element is less than the
one before it. -/
def sortedUpTo (b : Nat) : Nat → Nat → m Nat
  | i, 0 => pure i
  | i, fuel + 1 =>
    if i < b then do
      if ← o.less i (i - 1) then pure i else sortedUpTo b (i + 1) fuel
    else pure i

/-- Moves the element at `j` down while it is less than the one before it,
not below the second place of the whole sequence. -/
def shiftLeft : Nat → Nat → m Unit
  | _, 0 => pure ()
  | j, fuel + 1 =>
    if j ≥ 1 then do
      if ← o.less j (j - 1) then
        o.swap j (j - 1)
        shiftLeft (j - 1) fuel
    else pure ()

/-- Moves the element at `j` up while it is less than the one before it,
not beyond `b`. -/
def shiftRight (b : Nat) : Nat → Nat → m Unit
  | _, 0 => pure ()
  | j, fuel + 1 =>
    if j < b then do
      if ← o.less j (j - 1) then
        o.swap j (j - 1)
        shiftRight b (j + 1) fuel
    else pure ()

/-- Tries to sort a nearly sorted range by moving at most five elements out
of place, on ranges of at least fifty; answers whether the range ended up
sorted. -/
def partialInsertionSort (a b : Nat) : m Bool := do
  let mut i := a + 1
  for _ in [0:5] do
    i ← sortedUpTo o b i (b - i)
    if i == b then return true
    if b - a < 50 then return false
    o.swap i (i - 1)
    if i - a ≥ 2 then shiftLeft o (i - 1) i
    if b - i ≥ 2 then shiftRight o b (i + 1) (b - i)
  return false

/-- One step of the xorshift generator that picks the swaps breaking a
pattern. -/
def xorshift (r : UInt64) : UInt64 :=
  let r := r ^^^ (r <<< 13)
  let r := r ^^^ (r >>> 7)
  r ^^^ (r <<< 17)

/-- Swaps three elements around the middle of a range of at least eight
with places chosen by a generator seeded with the range's length. -/
def breakPatterns (a b : Nat) : m Unit := do
  let length := b - a
  if length ≥ 8 then
    let modulus := Nat.pow 2 (bitLength length)
    let idx := a + (length / 4) * 2
    let mut r : UInt64 := length.toUInt64
    for i in [0:3] do
      r := xorshift r
      let other := r.toNat % modulus
      let other := if other ≥ length then other - length else other
      o.swap (idx - 1 + i) (a + other)

/-- The two places in order of their elements, counting a swap when the
second holds the smaller one. -/
def order2 (x y : Nat) (swaps : Nat) : m (Nat × Nat × Nat) := do
  if ← o.less y x then pure (y, x, swaps + 1) else pure (x, y, swaps)

/-- The place of the median element of three places, with the swaps
counted. -/
def median (x y z : Nat) (swaps : Nat) : m (Nat × Nat) := do
  let (x, y, swaps) ← order2 o x y swaps
  let (y, _, swaps) ← order2 o y z swaps
  let (_, y, swaps) ← order2 o x y swaps
  pure (y, swaps)

/-- Chooses the pivot of a range: its middle on short ranges, the median of
three places on ranges of eight or more, the median of three medians of
neighbours from fifty on.  The hint says whether no sample was out of
order, or every one was. -/
def choosePivot (a b : Nat) : m (Nat × Hint) := do
  let l := b - a
  let i := a + l / 4
  let j := a + l / 4 * 2
  let k := a + l / 4 * 3
  let (j, swaps) ← if l ≥ 8 then do
      let (i, j, k, swaps) ← if l ≥ 50 then do
          let (i, s) ← median o (i - 1) i (i + 1) 0
          let (j, s) ← median o (j - 1) j (j + 1) s
          let (k, s) ← median o (k - 1) k (k + 1) s
          pure (i, j, k, s)
        else pure (i, j, k, 0)
      median o i j k swaps
    else pure (j, 0)
  pure (j, if swaps == 0 then .increasing else if swaps == 12 then .decreasing else .unknown)

def reverseRange (a b : Nat) : m Unit := do
  for k in [0:(b - a) / 2] do
    o.swap (a + k) (b - 1 - k)

/-- Sorts the range from `a` to `b`, allowing `limit` more unbalanced
partitions before heapsort takes over; `balanced` and `partitioned` tell
how the last partition went. -/
def pdqsort : Nat → Nat → Nat → Nat → Bool → Bool → m Unit
  | 0, _, _, _, _, _ => pure ()
  | fuel + 1, a, b, limit, balanced, partitioned => do
    let length := b - a
    if length ≤ 12 then insertionSort o a b
    else if limit = 0 then heapSort o a b
    else
      let limit ← if balanced then pure limit else do breakPatterns o a b; pure (limit - 1)
      let (pivot, hint) ← choosePivot o a b
      let (pivot, hint) ← if hint == .decreasing then do
          reverseRange o a b
          pure ((b - 1) - (pivot - a), Hint.increasing)
        else pure (pivot, hint)
      let sorted ← if balanced && partitioned && hint == .increasing then partialInsertionSort o a b
        else pure false
      if sorted then pure ()
      else
        let equalRun ← if a > 0 then do pure !(← o.less (a - 1) pivot) else pure false
        if equalRun then
          let mid ← partitionEqual o a b pivot
          pdqsort fuel mid b limit balanced partitioned
        else
          let (mid, already) ← partition o a b pivot
          let leftLen := mid - a
          let rightLen := b - mid
          if leftLen < rightLen then
            pdqsort fuel a mid limit true true
            pdqsort fuel (mid + 1) b limit (leftLen ≥ length / 8) already
          else
            pdqsort fuel (mid + 1) b limit true true
            pdqsort fuel a mid limit (rightLen ≥ length / 8) already

def sort (n : Nat) : m Unit :=
  if n ≤ 1 then pure () else pdqsort o (n + 1) 0 n (bitLength n) true true

end MudClient.Order
