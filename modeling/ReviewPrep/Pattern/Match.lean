import ReviewPrep.Pattern.Basic

/-!
# Matching line patterns

Matching tries the alternatives of a pattern in order and backtracks into earlier choices when a
later part fails, so the match found is the first in that order: greedy repetition prefers more
iterations, lazy repetition fewer, and choice its left alternative. The matcher passes the rest of
the work as a continuation and recurses on the pattern. A repetition runs its body again only on
less input, since an iteration that consumes nothing is refused; it is therefore given one
iteration more than there are characters left, a bound it never reaches, and it unfolds as the
unbounded repetition does (`run_star_greedy`, `run_star_lazy`). The cursor counts the characters
left, so that the check takes constant time.
-/

namespace ReviewPrep.Pattern

/-- A position in the subject during matching. -/
structure Cursor where
  /-- The number of characters consumed. -/
  pos : Nat
  /-- The character before the position, if any. -/
  prev : Option Char
  /-- The characters after the position. -/
  rest : List Char
  /-- The groups recorded so far, latest first: index, start and end position. -/
  groups : List (Nat × Nat × Nat)
  /-- The number of characters after the position, the length of `rest`: kept beside it so
  that progress is seen without measuring the rest. -/
  left : Nat

/-- Whether an optional character is a word character. -/
def isWordAt : Option Char → Bool
  | some c => Text.isWordChar c
  | none => false

/-- Runs a repetition of the matcher `r` at the cursor, at most `fuel` more times, and hands
each way of matching to `k`: greedy repetition tries one more iteration first, lazy repetition
last. An iteration must consume input. -/
def runStar (r : Cursor → (Cursor → Option Cursor) → Option Cursor) (greedy : Bool) :
    Nat → Cursor → (Cursor → Option Cursor) → Option Cursor
  | 0, st, k => k st
  | fuel + 1, st, k =>
    let more := fun (_ : Unit) =>
      r st fun st' => if st'.left < st.left then runStar r greedy fuel st' k else none
    if greedy then (more ()).orElse fun _ => k st else (k st).orElse more

/-- Matches `p` at the cursor and hands each way of matching to `k`, in order of preference,
until `k` accepts one. -/
def run : Pattern → Cursor → (Cursor → Option Cursor) → Option Cursor
  | .empty, st, k => k st
  | .one s, st, k =>
    match st.rest with
    | c :: r => if s.has c then k ⟨st.pos + 1, some c, r, st.groups, st.left - 1⟩ else none
    | [] => none
  | .seq p q, st, k => run p st fun st' => run q st' k
  | .alt p q, st, k => (run p st k).orElse fun _ => run q st k
  | .star p greedy, st, k => runStar (run p) greedy (st.left + 1) st k
  | .group i p, st, k => run p st fun st' => k { st' with groups := (i, st.pos, st'.pos) :: st'.groups }
  | .atStart, st, k => if st.pos == 0 then k st else none
  | .atEnd, st, k =>
    match st.rest with
    | [] => k st
    | ['\n'] => k st
    | _ => none
  | .wordBoundary, st, k => if isWordAt st.prev != isWordAt st.rest.head? then k st else none
  | .notAhead p, st, k =>
    match run p st some with
    | some _ => none
    | none => k st

/-- Fuel beyond the characters left is never used up, so any such amount gives the same
matches. -/
theorem runStar_fuel (r : Cursor → (Cursor → Option Cursor) → Option Cursor) (greedy : Bool) :
    ∀ {m n : Nat} (st : Cursor) (k : Cursor → Option Cursor), st.left < m → st.left < n →
      runStar r greedy m st k = runStar r greedy n st k
  | 0, _, _, _, hm, _ => absurd hm (Nat.not_lt_zero _)
  | _ + 1, 0, _, _, _, hn => absurd hn (Nat.not_lt_zero _)
  | m + 1, n + 1, st, k, hm, hn => by
    -- an iteration leaves fewer characters than the fuel that remains on either side
    have hnext : (fun st' => if st'.left < st.left then runStar r greedy m st' k else none) =
        fun st' => if st'.left < st.left then runStar r greedy n st' k else none := by
      funext st'
      split
      · next h => exact runStar_fuel r greedy st' k (by omega) (by omega)
      · rfl
    simp only [runStar, hnext]

/-- Greedy repetition tries one more iteration of its body, on less input, before stopping. -/
theorem run_star_greedy (p : Pattern) (st : Cursor) (k : Cursor → Option Cursor) :
    run (.star p true) st k =
      (run p st fun st' => if st'.left < st.left then run (.star p true) st' k else none).orElse
        fun _ => k st := by
  have hnext : (fun st' => if st'.left < st.left then runStar (run p) true st.left st' k else none) =
      fun st' => if st'.left < st.left then run (.star p true) st' k else none := by
    funext st'
    split
    · next h => exact runStar_fuel (run p) true st' k h (Nat.lt_succ_self _)
    · rfl
  simp only [run, runStar, hnext, if_true]

/-- Lazy repetition tries to stop before it tries one more iteration of its body, on less
input. -/
theorem run_star_lazy (p : Pattern) (st : Cursor) (k : Cursor → Option Cursor) :
    run (.star p false) st k =
      (k st).orElse fun _ =>
        run p st fun st' => if st'.left < st.left then run (.star p false) st' k else none := by
  have hnext : (fun st' => if st'.left < st.left then runStar (run p) false st.left st' k else none) =
      fun st' => if st'.left < st.left then run (.star p false) st' k else none := by
    funext st'
    split
    · next h => exact runStar_fuel (run p) false st' k h (Nat.lt_succ_self _)
    · rfl
  simp only [run, runStar, hnext, Bool.false_eq_true, if_false]

/-- A successful match: the subject, where the match started and ended, and its groups. -/
structure Match where
  /-- The subject. -/
  subject : List Char
  /-- Where the match starts. -/
  start : Nat
  /-- Where the match ends. -/
  stop : Nat
  /-- The groups recorded, latest first: index, start and end position. -/
  groups : List (Nat × Nat × Nat)

/-- The text of group `i`, if the group took part in the match. -/
def Match.group? (m : Match) (i : Nat) : Option (List Char) :=
  (m.groups.find? (·.1 == i)).map fun (_, a, b) => (m.subject.drop a).take (b - a)

/-- The text of group `i` as a string, empty if the group took part in no match. -/
def Match.text (m : Match) (i : Nat) : String := String.ofList ((m.group? i).getD [])

/-- The text of group `i` as a string, if the group took part in the match. -/
def Match.str? (m : Match) (i : Nat) : Option String := (m.group? i).map String.ofList

/-- The subject after the match. -/
def Match.after (m : Match) : List Char := m.subject.drop m.stop

/-- Matches at position `pos` of `subject`, whose characters from there on are `rest`, `left` of
them, and whose character before is `prev`. -/
def matchFrom (p : Pattern) (subject : List Char) (pos : Nat) (prev : Option Char)
    (rest : List Char) (left : Nat) : Option Match :=
  (run p ⟨pos, prev, rest, [], left⟩ some).map fun st => ⟨subject, pos, st.pos, st.groups⟩

/-- The first match of `p` that starts at the start of the subject. -/
def matchPrefix? (p : Pattern) (subject : List Char) : Option Match :=
  matchFrom p subject 0 none subject subject.length

/-- The first match of `p` that starts at the leftmost position where one does. -/
def search? (p : Pattern) (subject : List Char) : Option Match :=
  go 0 none subject subject.length
where
  /-- Tries the positions from `pos` on, with `left` characters from there. -/
  go (pos : Nat) (prev : Option Char) : List Char → Nat → Option Match
    | [], left => matchFrom p subject pos prev [] left
    | c :: r, left =>
      (matchFrom p subject pos prev (c :: r) left).orElse fun _ => go (pos + 1) (some c) r (left - 1)

/-- Whether `p` matches at the start of the subject. -/
def startsText (p : Pattern) (subject : List Char) : Bool := (matchPrefix? p subject).isSome

/-- Whether `p` matches somewhere in the subject. -/
def occurs (p : Pattern) (subject : List Char) : Bool := (search? p subject).isSome

end ReviewPrep.Pattern
