/-
# The size of patterns

How much room a pattern takes when it is compiled to a machine over the bytes of the text, forwards
or backwards. A pattern whose machine takes more than `maxBytes` in one of the two directions is
none that can be carried out.

A machine is a list of states. Every state takes `stateBytes`; one that reads one of several ranges
of bytes takes room for each of them too, and so does one that goes on to several states. A set of
characters is read by the runs of byte ranges that its characters are encoded in: forwards by one
state for each set of runs that can remain, backwards by one state for each way a run can begin.

Counted here is what each part of the pattern takes of itself. Left out is what the compiler shares
between branches that are words or begin alike, and that it forgets a shared state now and then when
a set has very many of them. The pattern is taken to begin at the start of the text, as those of
facets do; one that does not takes 80 bytes more.
-/
import GuidedXml.Pattern.Basic

namespace GuidedXml.Pattern

/-! ## Runs of bytes -/

/-- A run of ranges of bytes, one after the other. -/
abbrev Run := List (Nat × Nat)

/-- The runs followed by one more byte, which ends in bits from `low` to `high`. -/
def endedBy (low high : Nat) (runs : List Run) : List Run :=
  runs.map (· ++ [(0x80 + low, 0x80 + high)])

/-- The runs of the code points from `lo` to `hi`, all of which are encoded in `n` bytes after the
leading one: each of these ends in six bits, and the leading one has the rest above `lead`. Where
the bits before differ, the last six take every value, so that incomplete ends make runs of their
own. -/
def runsOf (lead : Nat) : Nat → Nat → Nat → List Run
  | 0, lo, hi => [[(lead + lo, lead + hi)]]
  | n + 1, lo, hi =>
    let first := lo / 64
    let last := hi / 64
    if first = last then endedBy (lo % 64) (hi % 64) (runsOf lead n first last)
    else
      let start := if lo % 64 = 0 then first else first + 1
      let stop := if hi % 64 = 63 then last + 1 else last
      (if start = first then [] else endedBy (lo % 64) 63 (runsOf lead n first first)) ++
        (if start < stop then endedBy 0 63 (runsOf lead n start (stop - 1)) else []) ++
        (if stop = last then endedBy 0 (hi % 64) (runsOf lead n last last) else [])

/-- A way to encode code points: how many bytes follow the leading one, what that one begins with,
and the code points from the first to the last that are encoded so. -/
structure Encoding where
  following : Nat
  lead : Nat
  first : Nat
  last : Nat

/-- The encodings. The code points between the third and the fourth have none. -/
def encodings : List Encoding :=
  [⟨0, 0x00, 0x00, 0x7F⟩, ⟨1, 0xC0, 0x80, 0x7FF⟩, ⟨2, 0xE0, 0x800, 0xD7FF⟩, ⟨2, 0xE0, 0xE000, 0xFFFF⟩,
   ⟨3, 0xF0, 0x10000, 0x10FFFF⟩]

/-- The runs of the code points between two that have this encoding. -/
def Encoding.runs (e : Encoding) (lo hi : Nat) : List Run :=
  let lo := max lo e.first
  let hi := min hi e.last
  if lo ≤ hi then runsOf e.lead e.following lo hi else []

/-- The ranges between bounds, both ends included. -/
def rangesOf : List Nat → List (Nat × Nat)
  | [] => []
  | [lo] => [(lo, 0x10FFFF)]
  | lo :: hi :: rest => (lo, hi - 1) :: rangesOf rest

/-- The runs of a set, in ascending order. -/
def CharSet.runs (s : CharSet) : List Run :=
  (rangesOf s.bounds).flatMap fun r => encodings.flatMap (·.runs r.1 r.2)

/-- What remains of runs after each of the ranges that they begin with. -/
def remainders (runs : List Run) : List (List Run) :=
  ((runs.filter fun r => !r.isEmpty).splitBy fun r r' => r.head? = r'.head?).map (·.map List.tail)

/-- The number of ways in which runs of up to `n` bytes can begin. -/
def beginnings : Nat → List Run → Nat
  | 0, _ => 0
  | n + 1, runs => ((remainders runs).map fun rest => 1 + beginnings n rest).sum

/-- The different sets of runs that can remain within runs of up to `n` bytes, themselves
included. -/
def suffixes : Nat → List (List Run) → List (List Run)
  | 0, _ => []
  | n + 1, all =>
    let all := (all.filter fun runs => !(remainders runs).isEmpty).eraseDups
    (all ++ suffixes n (all.flatMap remainders)).eraseDups

/-! ## Room -/

/-- The room of a state. -/
def stateBytes : Nat := 32

/-- The room for one range of bytes of a state that reads several. -/
def rangeBytes : Nat := 8

/-- The room for one of several states to go on to. -/
def choiceBytes : Nat := 4

/-- The greatest room of a machine that is carried out. -/
def maxBytes : Nat := 10 * 1024 * 1024

/-- The room of a set: of a single character one state for each byte of it, of a set within the
basic Latin block two states, of another set the states for its runs. -/
def CharSet.bytes (forwards : Bool) (s : CharSet) : Nat :=
  let runs := s.runs
  if s.isSingle then stateBytes * runs.flatten.length
  else if s.bounds.all (· ≤ 0x80) then 2 * stateBytes + rangeBytes * runs.length
  else if forwards then
    let remaining := suffixes 4 [runs]
    stateBytes * (1 + remaining.length) + rangeBytes * (remaining.flatMap remainders).length
  else 2 * stateBytes + choiceBytes * runs.length + stateBytes * beginnings 4 runs

/-- Whether the pattern can match without a character. -/
def canBeEmpty : Pattern → Bool
  | empty => true
  | chars _ => false
  | look _ => true
  | group p => p.canBeEmpty
  | seq p q => p.canBeEmpty && q.canBeEmpty
  | alt p q => p.canBeEmpty || q.canBeEmpty
  | rep p min _ => min = 0 || p.canBeEmpty

/-- The room of a state that goes on to two states. -/
def forkBytes : Nat := stateBytes + 2 * choiceBytes

/-- The room of a pattern. Backwards no group is remembered. -/
def bytes (forwards : Bool) : Pattern → Nat
  | empty => stateBytes
  | chars s => s.bytes forwards
  | look _ => stateBytes
  | group p => (if forwards then 2 * stateBytes else 0) + p.bytes forwards
  | seq p q => p.bytes forwards + q.bytes forwards
  | alt p (alt q r) => p.bytes forwards + choiceBytes + (alt q r).bytes forwards
  | alt p q => p.bytes forwards + q.bytes forwards + forkBytes + stateBytes
  | rep p 0 (some 1) => p.bytes forwards + forkBytes + stateBytes
  | rep p min (some max) =>
    let least := if min = 0 then stateBytes else min * p.bytes forwards
    if min = max then least
    else least + stateBytes + (max - min) * (p.bytes forwards + forkBytes)
  | rep p 0 none =>
    if p.canBeEmpty then p.bytes forwards + 2 * forkBytes + stateBytes
    else p.bytes forwards + forkBytes
  | rep p min none => min * p.bytes forwards + forkBytes

/-- Whether the machines of a pattern take no more room than is given to them. Forwards a machine
remembers the whole match too. -/
def fits (p : Pattern) : Bool :=
  (group p).bytes true + 2 * stateBytes ≤ maxBytes && (group p).bytes false + 2 * stateBytes ≤ maxBytes

end GuidedXml.Pattern
