import ScriptHost.Text.Case

/-! Patterns over sequences of numbers, such as code points or units of 16 bits. A match
is searched for by trying alternatives in order, so the first one that leads to a match
wins. -/

namespace ScriptHost.Text

/-- A set of numbers, as ranges that include their ends. -/
structure CharSet where
  ranges : List (Nat × Nat)
  negated : Bool := false
deriving DecidableEq, Repr, Inhabited

namespace CharSet

def contains (s : CharSet) (n : Nat) : Bool :=
  s.ranges.any (fun r => r.1 ≤ n && n ≤ r.2) != s.negated

def digits : List (Nat × Nat) := [(48, 57)]

def word : List (Nat × Nat) := [(48, 57), (65, 90), (95, 95), (97, 122)]

/-- The largest code point. -/
def top : Nat := 0x10FFFF

/-- The numbers between ranges that are sorted and apart. -/
def between : Nat → List (Nat × Nat) → List (Nat × Nat)
  | start, [] => if start ≤ top then [(start, top)] else []
  | start, (low, high) :: rest =>
    (if start < low then [(start, low - 1)] else []) ++ between (high + 1) rest

/-- Joins sorted ranges that touch. -/
def joined : List (Nat × Nat) → List (Nat × Nat)
  | (a, b) :: (c, d) :: rest =>
    if c ≤ b + 1 then joined ((a, max b d) :: rest) else (a, b) :: joined ((c, d) :: rest)
  | rest => rest
termination_by ranges => ranges.length

/-- The numbers that are in none of the ranges. -/
def complement (ranges : List (Nat × Nat)) : List (Nat × Nat) :=
  between 0 (joined (ranges.mergeSort fun a b => a.1 ≤ b.1))

end CharSet

/-- A place between characters. -/
inductive Anchor where
  | start | finish | lineStart | lineEnd | wordEdge | noWordEdge
  /-- The end, or the place before a line feed that ends the text. -/
  | lastLine
deriving DecidableEq, Repr, Inhabited

inductive Pattern where
  | empty
  | set (s : CharSet) (foldCase : Bool)
  | sequence (first second : Pattern)
  | choice (first second : Pattern)
  | repeated (least : Nat) (most : Option Nat) (greedy : Bool) (body : Pattern)
  | group (index : Nat) (body : Pattern)
  | anchor (a : Anchor)
  /-- What a group matched, again. -/
  | again (group : Nat) (foldCase : Bool)
  | look (ahead negated : Bool) (body : Pattern)
deriving Repr, Inhabited

namespace Pattern

/-- The groups in a pattern. -/
def groups : Pattern → List Nat
  | .sequence a b | .choice a b => a.groups ++ b.groups
  | .repeated _ _ _ body | .look _ _ body => body.groups
  | .group n body => n :: body.groups
  | _ => []

/-- What a search is about. -/
structure Subject where
  items : Array Nat
  /-- Is the character part of a word? -/
  isWord : Nat → Bool
  isLineEnd : Nat → Bool
  /-- Do groups forget what they matched when they are entered again? -/
  forgets : Bool

/-- Where a search stands: the place, the direction and what groups matched. -/
structure Place where
  index : Nat
  found : List (Nat × Nat × Nat)
deriving Inhabited

def Place.capture? (p : Place) (group : Nat) : Option (Nat × Nat) := p.found.lookup group

/-- The form of a letter in which case makes no difference. -/
def folded (n : Nat) : Nat := lowerPoint (upperPoint n)

/-- Is a number in a set, perhaps in another case? -/
def setContains (s : CharSet) (foldCase : Bool) (n : Nat) : Bool :=
  let hit (m : Nat) : Bool := s.ranges.any fun r => r.1 ≤ m && m ≤ r.2
  if foldCase then (hit n || hit (lowerPoint n) || hit (upperPoint n)) != s.negated
  else s.contains n

abbrev Goal := Place → Option Place

/-- Tries a step as often as allowed, then the goal. A round that stays where it is does
not count beyond the least number. -/
def rounds (step : Goal → Goal) (forget : Place → Place) (greedy : Bool) (goal : Goal) :
    Nat → Nat → Option Nat → Goal
  | 0, _, _, p => goal p
  | fuel + 1, least, most, p =>
    let less (m : Option Nat) : Option Nat := m.map (· - 1)
    let more (least : Nat) : Option Place :=
      step (fun q =>
        if q.index == p.index && least == 0 then none
        else rounds step forget greedy goal fuel (least - 1) (less most) q) (forget p)
    if least != 0 then more least
    else if most == some 0 then goal p
    else if greedy then (more 0).or (goal p)
    else (goal p).or (more 0)

def atEdge (s : Subject) (index : Nat) : Bool :=
  let word (n : Option Nat) : Bool := n.any s.isWord
  word (if index = 0 then none else s.items[index - 1]?) != word s.items[index]?

def holds (s : Subject) (index : Nat) : Anchor → Bool
  | .start => index == 0
  | .finish => index == s.items.size
  | .lineStart => index == 0 || (s.items[index - 1]?).any s.isLineEnd
  | .lineEnd => index == s.items.size || (s.items[index]?).any s.isLineEnd
  | .wordEdge => atEdge s index
  | .noWordEdge => !atEdge s index
  | .lastLine => index == s.items.size || (index + 1 == s.items.size && s.items[index]? == some 10)

/-- The characters of a part of the subject. -/
def slice (s : Subject) (start stop : Nat) : List Nat := (s.items.extract start stop).toList

/-- Matches a pattern and then reaches the goal, from a place on in a direction. -/
def search (s : Subject) : Pattern → (forward : Bool) → Goal → Goal
  | .empty, _, goal, p => goal p
  | .set chars foldCase, forward, goal, p =>
    if forward then
      match s.items[p.index]? with
      | some n => if setContains chars foldCase n then goal { p with index := p.index + 1 } else none
      | none => none
    else if p.index = 0 then none
    else
      match s.items[p.index - 1]? with
      | some n => if setContains chars foldCase n then goal { p with index := p.index - 1 } else none
      | none => none
  | .sequence a b, forward, goal, p =>
    if forward then search s a forward (search s b forward goal) p
    else search s b forward (search s a forward goal) p
  | .choice a b, forward, goal, p => (search s a forward goal p).or (search s b forward goal p)
  | .repeated least most greedy body, forward, goal, p =>
    let inner := body.groups
    let forget (p : Place) : Place :=
      if s.forgets && !inner.isEmpty then { p with found := p.found.filter (!inner.contains ·.1) } else p
    rounds (search s body forward) forget greedy goal (s.items.size + least + 1) least most p
  | .group n body, forward, goal, p =>
    search s body forward (fun q =>
      let range := if forward then (p.index, q.index) else (q.index, p.index)
      goal { q with found := (n, range) :: q.found.filter (·.1 != n) }) p
  | .anchor a, _, goal, p => if holds s p.index a then goal p else none
  | .again n foldCase, forward, goal, p =>
    match p.capture? n with
    | none => goal p
    | some (start, stop) =>
      let wanted := slice s start stop
      let count := wanted.length
      let same (a b : List Nat) : Bool := if foldCase then a.map folded == b.map folded else a == b
      if forward then
        if same (slice s p.index (p.index + count)) wanted then goal { p with index := p.index + count }
        else none
      else if count ≤ p.index && same (slice s (p.index - count) p.index) wanted then
        goal { p with index := p.index - count }
      else none
  | .look ahead negated body, _, goal, p =>
    match search s body ahead some p with
    | some q => if negated then none else goal { q with index := p.index }
    | none => if negated then goal p else none

/-- The match that begins at a place. -/
def matchAt? (pattern : Pattern) (s : Subject) (index : Nat) : Option Place :=
  search s pattern true some ⟨index, []⟩

/-- The first match that begins at or after a place, with where it begins. -/
def find? (pattern : Pattern) (s : Subject) (start : Nat) : Option (Nat × Place) :=
  (List.range (s.items.size + 1 - start)).findSome? fun k =>
    (pattern.matchAt? s (start + k)).map fun p => (start + k, p)

end Pattern

end ScriptHost.Text
