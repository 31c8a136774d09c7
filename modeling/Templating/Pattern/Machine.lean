/-
Matching a pattern, and removing from a text what it matches.

A pattern is laid out as a machine: a list of steps that name the steps which follow them. A search runs through the
text once, with all ways to match side by side as threads in the order of preference. A thread that comes to a step
where a better one has been at the same place of the text ends there, so that the work for a character is bounded by
the number of steps; this also ends the repetition of a part that consumes nothing. A part that may consume nothing is
repeated as one that may be there, and then again any number of times: so the ways through it keep their order. The
first match from the left counts, and of several that begin there the preferred one.
-/
import Templating.Pattern.Basic

namespace Templating.Pattern

open Text (CharSet)

/-- a step of a machine; `next`, `first` and `second` are numbers of steps -/
inductive Step where
  | take (set : CharSet) (next : Nat)
  | require (place : Place) (next : Nat)
  | fork (first second : Nat)
  | accept
  deriving Repr

/-- steps, and the one to begin at; a pattern is laid out in front of the machine that goes on behind it -/
structure Machine where
  steps : Array Step
  entry : Nat
  deriving Repr

/-! ## laying out -/

/-- one more step, at which to begin now -/
def Machine.add : Machine → Step → Machine
  | ⟨steps, _⟩, step =>
    let entry := steps.size
    ⟨steps.push step, entry⟩

/-- a fork, where the body is preferred if the repetition is greedy -/
def forkStep (greedy : Bool) (body next : Nat) : Step :=
  if greedy then .fork body next else .fork next body

/-- so many copies of a part, one in front of the other -/
def copies (lay : Machine → Machine) : Nat → Machine → Machine
  | 0, m => m
  | n + 1, m => copies lay n (lay m)

/-- a part that need not be there; `next` is the step behind it and all that it stands within -/
def option (lay : Machine → Machine) (greedy : Bool) (next : Nat) (m : Machine) : Machine :=
  let body := lay m
  body.add (forkStep greedy body.entry next)

/-- a part once and then again any number of times; the step after the part, where it may begin again, is the first of
the steps that are added -/
def loop (lay : Machine → Machine) (greedy : Bool) : Machine → Machine
  | ⟨steps, next⟩ =>
    let back := steps.size
    let body := lay ⟨steps.push .accept, back⟩
    ⟨body.steps.setIfInBounds back (forkStep greedy body.entry next), body.entry⟩

/-- the pattern laid out in front of a machine -/
def lay : Pattern → Machine → Machine
  | empty, m => m
  | oneOf set, ⟨steps, next⟩ => Machine.add ⟨steps, next⟩ (.take set next)
  | .place p, ⟨steps, next⟩ => Machine.add ⟨steps, next⟩ (.require p next)
  | seq first second, m => first.lay (second.lay m)
  | alt left right, ⟨steps, next⟩ =>
    let ⟨steps, rightEntry⟩ := right.lay ⟨steps, next⟩
    let left := left.lay ⟨steps, next⟩
    left.add (.fork left.entry rightEntry)
  | repeated least (some most) greedy body, ⟨steps, next⟩ =>
    copies (fun m => body.lay m) least (copies (option (fun m => body.lay m) greedy next) (most - least) ⟨steps, next⟩)
  | repeated 0 none greedy body, ⟨steps, next⟩ =>
    let back := steps.size
    let ⟨steps, entry⟩ := loop (fun m => body.lay m) greedy ⟨steps, next⟩
    if body.mustConsume then ⟨steps, back⟩ else Machine.add ⟨steps, entry⟩ (forkStep greedy entry next)
  | repeated (least + 1) none greedy body, m =>
    copies (fun m => body.lay m) least (loop (fun m => body.lay m) greedy m)
  | group _ body, m => body.lay m

/-- the machine of a pattern -/
def machine (p : Pattern) : Machine :=
  p.lay ⟨#[.accept], 0⟩

/-! ## searching -/

/-- a way to match: the step it has come to, and where in the text its match begins -/
structure Thread where
  step : Nat
  start : Nat

/-- a thread that waits for a character of a set -/
structure Waiting where
  set : CharSet
  thread : Thread

/-- what the threads of one place come to: those that wait for a character, and where the match begins that ends here;
threads behind that match are not followed -/
structure Reached where
  waiting : List Waiting
  start? : Option Nat

/-- follow threads between two characters, the best first, up to steps that take a character. Each round ends a thread
or comes to a step for the first time, and then it leaves at most two threads instead of one. -/
def follow (steps : Array Step) (before after : Option Char) :
    (fuel : Nat) → (seen : Array Bool) → (done : List Waiting) → List Thread → Reached
  | 0, _, done, _ => ⟨done.reverse, none⟩
  | _ + 1, _, done, [] => ⟨done.reverse, none⟩
  | fuel + 1, seen, done, thread :: rest =>
    if seen.getD thread.step true then follow steps before after fuel seen done rest
    else
      let seen := seen.setIfInBounds thread.step true
      match steps[thread.step]? with
      | none => follow steps before after fuel seen done rest
      | some (.take set next) => follow steps before after fuel seen (⟨set, next, thread.start⟩ :: done) rest
      | some (.require p next) =>
        follow steps before after fuel seen done
          (if p.holds before after then ⟨next, thread.start⟩ :: rest else rest)
      | some (.fork first second) =>
        follow steps before after fuel seen done (⟨first, thread.start⟩ :: ⟨second, thread.start⟩ :: rest)
      | some .accept => ⟨done.reverse, some thread.start⟩

/-- what threads come to between two characters -/
def Machine.reach (m : Machine) (before after : Option Char) (threads : List Thread) : Reached :=
  follow m.steps before after (threads.length + 2 * m.steps.size + 1) (Array.replicate m.steps.size false) [] threads

/-- a part of a text: how many characters stand before it and how many it has -/
structure Span where
  start : Nat
  length : Nat
  deriving DecidableEq, Repr

/-- the search goes on at the place number `position`, with the match found so far and the threads behind it; a new
thread begins at every place until there is a match -/
def Machine.searchFrom (m : Machine) (found : Option Span) (position : Nat) (before : Option Char)
    (threads : List Thread) (text : List Char) : Option Span :=
  let fresh := if found.isNone then [⟨m.entry, position⟩] else []
  let reached := m.reach before text.head? (threads ++ fresh)
  let found := (reached.start?.map fun start => ⟨start, position - start⟩).or found
  if found.isSome && reached.waiting.isEmpty then found
  else
    match text with
    | [] => found
    | c :: rest =>
      m.searchFrom found (position + 1) (some c)
        (reached.waiting.filterMap fun w => if w.set.has c then some w.thread else none) rest

/-- the first match in a text that follows the character `before` -/
def Machine.find? (m : Machine) (before : Option Char) (text : List Char) : Option Span :=
  m.searchFrom none 0 before [] text

/-! ## removing -/

/-- the text without the matches; a match of nothing is passed with the character behind it -/
def Machine.removeFrom (m : Machine) : (fuel : Nat) → (before : Option Char) → List Char → List Char
  | 0, _, text => text
  | fuel + 1, before, text =>
    match m.find? before text with
    | none => text
    | some span =>
      let kept := if span.length = 0 then span.start + 1 else span.start
      let passed := span.start + max span.length 1
      if text.length < passed then text
      else text.take kept ++ m.removeFrom fuel text[passed - 1]? (text.drop passed)

/-- the text without the matches of the pattern, from left to right -/
def remove (p : Pattern) (text : List Char) : List Char :=
  p.machine.removeFrom (text.length + 1) none text

end Templating.Pattern
