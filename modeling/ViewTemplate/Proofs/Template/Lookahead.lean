import ViewTemplate.Proofs.Template.Coverage
import ViewTemplate.Template.Lexer

/-!
# Looking ahead loses nothing

A lexer is read in three ways: its next token can be looked at, the next token can be
taken, and raw text can be taken up to a character.  All three work on one cursor, and a
token that was looked at has left the cursor before it is taken.

What is not taken yet is the token that was looked at, if there is one, and the text
behind the cursor (`Lexer.untaken`).  Each step takes its text from the front of that and
moves the cursor over text that it reads (`Lexer.Advances`), and so does every sequence of
steps.  So the texts that were taken, the token ahead and the unread text are the source
in any order of steps, as long as no raw text ran into the end of the source.

Looking at a token changes nothing that is given later: a lexer that has looked ahead
and one that has not give the same from then on (`Lexer.LooksAhead`).

## Main Definitions

* `Reading`, `Given` — a step of reading, and what it gives
* `Lexer.perform`, `Lexer.run` — one step, and a sequence of steps with all that it gives
* `Lexer.allows`, `Lexer.allowsAll` — raw text is taken only if no token was looked at
* `Lexer.Advances` — what steps do to the text that is left
* `TakesRaw` — what raw text is, and when there is none

-/

namespace ViewTemplate.Template

open Text

/-! ## Steps -/

/-- A step of reading. -/
inductive Reading where
  | peek
  | next
  | raw (stop : Char)
deriving DecidableEq

/-- What a step of reading gives. -/
inductive Given where
  /-- A token; none at the end of the source. -/
  | token (token : Option Token)
  /-- Raw text; an error if it does not end. -/
  | raw (text : Except LexicalError String)

/-- A step of reading, and what it gave. -/
abbrev Event : Type :=
  Reading × Given

/-- A step that only looks at a token. -/
def Reading.isPeek : Reading → Bool
  | .peek => true
  | _ => false

/-- The text that a step took.  A token that was only looked at is not taken. -/
def Event.taken : Event → List Char
  | (.next, .token (some token)) => token.text.toList
  | (.raw _, .raw (.ok text)) => text.toList
  | _ => []

/-- A step that found no end of raw text. -/
def Event.failed : Event → Bool
  | (_, .raw (.error _)) => true
  | _ => false

namespace Lexer

/-- Does a step. -/
def perform (lexer : Lexer) : Reading → Given × Lexer
  | .peek => (.token lexer.peek.1, lexer.peek.2)
  | .next => (.token lexer.next.1, lexer.next.2)
  | .raw stop => (.raw (lexer.rawUntil stop).1, (lexer.rawUntil stop).2)

/-- Does steps one after the other: all that they give, and the lexer behind them. -/
def run (lexer : Lexer) : List Reading → List Event × Lexer
  | [] => ([], lexer)
  | step :: steps =>
    let rest := (lexer.perform step).2.run steps
    ((step, (lexer.perform step).1) :: rest.1, rest.2)

/-- Raw text is only taken if no token was looked at. -/
def allows (lexer : Lexer) : Reading → Bool
  | .raw _ => lexer.ahead.isNone
  | _ => true

/-- Every step of a sequence is allowed when its turn comes. -/
def allowsAll (lexer : Lexer) : List Reading → Bool
  | [] => true
  | step :: steps => lexer.allows step && (lexer.perform step).2.allowsAll steps

/-- The token that was looked at. -/
def aheadText (lexer : Lexer) : List Char :=
  lexer.ahead.elim [] (·.text.toList)

/-- All text that was not taken yet. -/
def untaken (lexer : Lexer) : List Char :=
  lexer.aheadText ++ lexer.cursor.rest

/-! ## The text that is left -/

/-- **What steps do to a lexer.**  They move the cursor over the text that they read,
and unless raw text has no end they take text from the front of what was not taken. -/
structure Advances (lexer : Lexer) (events : List Event) (after : Lexer) : Prop where
  lexicon : after.lexicon = lexer.lexicon
  moved : ∃ read, lexer.cursor.rest = read ++ after.cursor.rest
    ∧ after.position = lexer.position.afterAll lexer.lexicon.tabWidth read
  taken : (∀ event ∈ events, event.failed = false) →
    lexer.untaken = events.flatMap Event.taken ++ after.untaken

namespace Advances

variable {lexer middle after : Lexer} {events more : List Event} {event : Event}

theorem refl (lexer : Lexer) : lexer.Advances [] lexer where
  lexicon := rfl
  moved := ⟨[], rfl, rfl⟩
  taken _ := rfl

theorem trans (first : lexer.Advances events middle) (second : middle.Advances more after) :
    lexer.Advances (events ++ more) after where
  lexicon := second.lexicon.trans first.lexicon
  moved := by
    obtain ⟨read, left, place⟩ := first.moved
    obtain ⟨read', left', place'⟩ := second.moved
    refine ⟨read ++ read', ?_, ?_⟩
    · rw [left, left', List.append_assoc]
    · rw [place', first.lexicon, place, Position.afterAll_append]
  taken fine := by
    obtain ⟨fine, fine'⟩ := List.forall_mem_append.1 fine
    rw [first.taken fine, second.taken fine', List.flatMap_append, List.append_assoc]

end Advances

variable {lexer : Lexer} {token : Token} {stop : Char}

theorem peek_of_some (seen : lexer.ahead = some token) : lexer.peek = (some token, lexer) := by
  rw [peek, seen]

theorem peek_of_none (free : lexer.ahead = none) :
    lexer.peek = (lexer.scan.1, { lexer.scan.2 with ahead := lexer.scan.1 }) := by
  rw [peek, free]

theorem next_of_some (seen : lexer.ahead = some token) :
    lexer.next = (some token, { lexer with ahead := none }) := by
  rw [next, seen]

theorem next_of_none (free : lexer.ahead = none) : lexer.next = lexer.scan := by
  rw [next, free]

/-- **Reading a token** takes it from the front of the text, and finds none at the end
only. -/
theorem scan_cases (delimiters : lexer.lexicon.HasDelimiters) :
    lexer.scan = (none, lexer)
      ∨ ∃ token cursor, lexer.scan = (some token, { lexer with cursor })
        ∧ lexer.cursor.Takes lexer.lexicon token cursor := by
  rw [scan]
  cases found : lexer.cursor.token? lexer.lexicon with
  | none => exact .inl rfl
  | some token => exact .inr ⟨token, _, rfl, Cursor.takes_of_token? delimiters found⟩

/-- Raw text is what stands before the first `stop`, and the cursor stays at it. -/
theorem rawUntil_eq_ok {raw rest : List Char} (split : lexer.cursor.rest = raw ++ stop :: rest)
    (before : stop ∉ raw) :
    lexer.rawUntil stop = (.ok (String.ofList raw), { lexer with
      cursor := ⟨stop :: rest, lexer.position.afterAll lexer.lexicon.tabWidth raw⟩ }) := by
  have taken : lexer.cursor.rest.takeWhile (· != stop) = raw := by
    rw [split, List.takeWhile_append_of_pos, List.takeWhile_cons_of_neg, List.append_nil]
    · simp
    · intro c mem
      simpa using ne_of_mem_of_not_mem mem before
  have shorter : raw.length < lexer.cursor.rest.length := by
    rw [split]
    simp
  rw [rawUntil, Cursor.rawUntil?, taken, if_pos shorter, Cursor.skip, split, List.drop_left,
    List.take_left]
  rfl

/-- With no `stop` left all text is read. -/
theorem rawUntil_eq_error (none : stop ∉ lexer.cursor.rest) :
    lexer.rawUntil stop =
      (.error ⟨lexer.position.afterAll lexer.lexicon.tabWidth lexer.cursor.rest⟩, { lexer with
        cursor := ⟨[], lexer.position.afterAll lexer.lexicon.tabWidth lexer.cursor.rest⟩ }) := by
  have whole : lexer.cursor.rest.takeWhile (· != stop) = lexer.cursor.rest := by
    rw [← List.append_nil lexer.cursor.rest, List.takeWhile_append_of_pos, List.takeWhile_nil]
    intro c mem
    simpa using ne_of_mem_of_not_mem mem none
  rw [rawUntil, Cursor.rawUntil?, whole, if_neg (Nat.lt_irrefl _)]
  dsimp only [Cursor.toEnd, Cursor.skip]
  rw [List.drop_length, List.take_length]
  rfl

theorem untaken_of_none (free : lexer.ahead = none) : lexer.untaken = lexer.cursor.rest := by
  rw [untaken, aheadText, free]
  rfl

/-- Looking at a token takes nothing. -/
theorem peek_advances (delimiters : lexer.lexicon.HasDelimiters) :
    lexer.Advances [(.peek, .token lexer.peek.1)] lexer.peek.2 := by
  cases seen : lexer.ahead with
  | some token =>
    rw [peek_of_some seen]
    exact ⟨rfl, ⟨[], rfl, rfl⟩, fun _ => rfl⟩
  | none =>
    rw [peek_of_none seen]
    rcases scan_cases delimiters with atEnd | ⟨token, after, found, takes⟩
    · rw [atEnd]
      exact ⟨rfl, ⟨[], rfl, rfl⟩, fun _ => untaken_of_none seen⟩
    · rw [found]
      exact ⟨rfl, ⟨_, takes.text, takes.place⟩, fun _ => (untaken_of_none seen).trans takes.text⟩

/-- Taking a token takes its text. -/
theorem next_advances (delimiters : lexer.lexicon.HasDelimiters) :
    lexer.Advances [(.next, .token lexer.next.1)] lexer.next.2 := by
  cases seen : lexer.ahead with
  | some token =>
    rw [next_of_some seen]
    refine ⟨rfl, ⟨[], rfl, rfl⟩, fun _ => ?_⟩
    simp [untaken, aheadText, seen, Event.taken]
  | none =>
    rw [next_of_none seen]
    rcases scan_cases delimiters with atEnd | ⟨token, after, found, takes⟩
    · rw [atEnd]
      exact ⟨rfl, ⟨[], rfl, rfl⟩, fun _ => rfl⟩
    · rw [found]
      refine ⟨rfl, ⟨_, takes.text, takes.place⟩, fun _ => ?_⟩
      simp [untaken, aheadText, seen, takes.text, Event.taken]

/-- Taking raw text takes it, if it ends. -/
theorem rawUntil_advances (free : lexer.ahead = none) :
    lexer.Advances [(.raw stop, .raw (lexer.rawUntil stop).1)] (lexer.rawUntil stop).2 := by
  by_cases left : stop ∈ lexer.cursor.rest
  · obtain ⟨raw, rest, split, before⟩ := List.eq_append_cons_of_mem left
    rw [rawUntil_eq_ok split before]
    refine ⟨rfl, ⟨raw, split, rfl⟩, fun _ => ?_⟩
    simp [untaken, aheadText, free, split, Event.taken]
  · rw [rawUntil_eq_error left]
    refine ⟨rfl, ⟨_, (List.append_nil _).symm, rfl⟩, fun fine => ?_⟩
    cases fine _ (List.mem_singleton_self _)

/-- **Step.**  A step that is allowed takes its text from the front of what was not
taken. -/
theorem perform_advances (delimiters : lexer.lexicon.HasDelimiters) {step : Reading}
    (allowed : lexer.allows step = true) :
    lexer.Advances [(step, (lexer.perform step).1)] (lexer.perform step).2 := by
  cases step with
  | peek => exact peek_advances delimiters
  | next => exact next_advances delimiters
  | raw stop => exact rawUntil_advances (Option.isNone_iff_eq_none.1 allowed)

/-- What is allowed of a sequence is its first step, and the others behind it. -/
theorem allowsAll_cons {step : Reading} {steps : List Reading} :
    lexer.allowsAll (step :: steps) = true ↔
      lexer.allows step = true ∧ (lexer.perform step).2.allowsAll steps = true := by
  rw [allowsAll, Bool.and_eq_true]

/-- **Run.**  So does a sequence of steps that are allowed. -/
theorem run_advances (delimiters : lexer.lexicon.HasDelimiters) {steps : List Reading}
    (allowed : lexer.allowsAll steps = true) :
    lexer.Advances (lexer.run steps).1 (lexer.run steps).2 := by
  induction steps generalizing lexer with
  | nil => exact .refl lexer
  | cons step steps ih =>
    obtain ⟨first, rest⟩ := allowsAll_cons.1 allowed
    have here := perform_advances delimiters first
    have same : (lexer.perform step).2.lexicon = lexer.lexicon := here.lexicon
    exact here.trans (ih (same ▸ delimiters) rest)

/-! ## Looking ahead -/

/-- A lexer stands where another one does, except that it may have looked at the next
token. -/
def LooksAhead (lexer plain : Lexer) : Prop :=
  lexer = plain ∨ lexer = plain.peek.2

/-- A token that was looked at is the next one: looking again shows it, and taking it
leaves what would be left without looking. -/
theorem ahead_peek (plain : Lexer) : plain.peek.2.ahead = plain.peek.1 := by
  cases seen : plain.ahead with
  | some token => rw [peek_of_some seen, seen]
  | none => rw [peek_of_none seen]

/-- If there is no token, looking changes nothing. -/
theorem peek_eq_self {plain : Lexer} (none : plain.peek.1 = none) : plain.peek.2 = plain := by
  cases seen : plain.ahead with
  | some token => rw [peek_of_some seen]
  | none =>
    rw [peek_of_none seen] at none ⊢
    rw [scan] at none ⊢
    split
    · obtain ⟨lexicon, cursor, ahead⟩ := plain
      cases seen
      rfl
    · rename_i found
      rw [found] at none
      cases none

/-- Looking again changes nothing. -/
theorem peek_peek (plain : Lexer) : plain.peek.2.peek.2 = plain.peek.2 := by
  cases seen : plain.peek.1 with
  | none => rw [peek_eq_self seen, peek_eq_self seen]
  | some token => rw [peek_of_some ((ahead_peek plain).trans seen)]

/-- Taking a token that was looked at is taking it without looking. -/
theorem next_peek (plain : Lexer) : plain.peek.2.next = plain.next := by
  cases seen : plain.peek.1 with
  | none => rw [peek_eq_self seen]
  | some token =>
    rw [next_of_some ((ahead_peek plain).trans seen)]
    -- The token was ahead before, or it has just been read and taking it would read it.
    cases ahead : plain.ahead with
    | some other =>
      rw [peek_of_some ahead] at seen ⊢
      cases seen
      rw [next_of_some ahead]
    | none =>
      rw [peek_of_none ahead] at seen ⊢
      rw [next_of_none ahead]
      rw [scan] at seen ⊢
      split
      · rename_i found
        rw [found] at seen
        cases seen
      · rename_i found
        rw [found] at seen
        cases seen
        obtain ⟨lexicon, cursor, _⟩ := plain
        cases ahead
        rfl

namespace LooksAhead

variable {plain : Lexer}

/-- A lexer that has no token ahead has not looked at one. -/
theorem eq_of_none (looks : lexer.LooksAhead plain) (free : lexer.ahead = none) :
    lexer = plain := by
  rcases looks with same | looked
  · exact same
  · rw [looked, ahead_peek] at free
    rw [looked, peek_eq_self free]

theorem peek (looks : lexer.LooksAhead plain) : lexer.peek.2.LooksAhead plain := by
  rcases looks with rfl | rfl
  · exact .inr rfl
  · exact .inr (peek_peek plain)

/-- **Step.**  A step that takes something takes the same, and leaves the same. -/
theorem perform (looks : lexer.LooksAhead plain) {step : Reading}
    (allowed : lexer.allows step = true) (taking : step.isPeek = false) :
    lexer.perform step = plain.perform step ∧ plain.allows step = true := by
  cases step with
  | peek => cases taking
  | next =>
    refine ⟨?_, rfl⟩
    rcases looks with rfl | rfl
    · rfl
    · rw [Lexer.perform, Lexer.perform, next_peek]
  | raw stop =>
    cases looks.eq_of_none (Option.isNone_iff_eq_none.1 allowed)
    exact ⟨rfl, allowed⟩

/-- **Run.**  Without the steps that only look at tokens a sequence is allowed too, and
all other steps give the same. -/
theorem run (looks : lexer.LooksAhead plain) {steps : List Reading}
    (allowed : lexer.allowsAll steps = true) :
    plain.allowsAll (steps.filter (!·.isPeek)) = true
      ∧ (plain.run (steps.filter (!·.isPeek))).1
        = (lexer.run steps).1.filter (!·.1.isPeek) := by
  induction steps generalizing lexer plain with
  | nil => exact ⟨rfl, rfl⟩
  | cons step steps ih =>
    obtain ⟨first, rest⟩ := allowsAll_cons.1 allowed
    cases taking : step.isPeek with
    | true =>
      obtain rfl : step = .peek := by
        cases step with
        | peek => rfl
        | _ => cases taking
      -- The other sequence does not have this step, so only one lexer moves.
      exact ih looks.peek rest
    | false =>
      obtain ⟨same, fine⟩ := looks.perform first taking
      -- Behind a step that takes something both lexers are the same one.
      obtain ⟨allowed', given⟩ := ih (.inl rfl) rest
      rw [List.filter_cons_of_pos (by rw [taking]; rfl), allowsAll_cons, Lexer.run, Lexer.run,
        List.filter_cons_of_pos (by simp [taking]), ← same]
      exact ⟨⟨fine, allowed'⟩, congrArg _ given⟩

end LooksAhead

end Lexer

/-! ## Raw text -/

/-- **What raw text is.**  It is what stands before the first `stop` of the unread text,
which is left unread.  There is none exactly if there is no `stop`; then everything is
read, and the error is at the end. -/
inductive TakesRaw (stop : Char) (ending : Position) (unread : List Char) :
    Except LexicalError String → List Char → Prop where
  | found {raw rest : List Char} (split : unread = raw ++ stop :: rest) (before : stop ∉ raw) :
      TakesRaw stop ending unread (.ok (String.ofList raw)) (stop :: rest)
  | missing (none : stop ∉ unread) : TakesRaw stop ending unread (.error ⟨ending⟩) []

namespace Lexer

variable {lexer : Lexer} {stop : Char}

theorem rawUntil_takesRaw (lexer : Lexer) (stop : Char) :
    TakesRaw stop (lexer.position.afterAll lexer.lexicon.tabWidth lexer.cursor.rest)
      lexer.cursor.rest (lexer.rawUntil stop).1 (lexer.rawUntil stop).2.cursor.rest := by
  by_cases left : stop ∈ lexer.cursor.rest
  · obtain ⟨raw, rest, split, before⟩ := List.eq_append_cons_of_mem left
    rw [rawUntil_eq_ok split before]
    exact .found split before
  · rw [rawUntil_eq_error left]
    exact .missing left

theorem run_append (lexer : Lexer) (steps more : List Reading) :
    lexer.run (steps ++ more) =
      ((lexer.run steps).1 ++ ((lexer.run steps).2.run more).1,
        ((lexer.run steps).2.run more).2) := by
  induction steps generalizing lexer with
  | nil => rfl
  | cons step steps ih => rw [List.cons_append, run, ih, run, List.cons_append]

theorem length_run (lexer : Lexer) (steps : List Reading) :
    (lexer.run steps).1.length = steps.length := by
  induction steps generalizing lexer with
  | nil => rfl
  | cons step steps ih => rw [run, List.length_cons, List.length_cons, ih]

theorem allowsAll_append {steps more : List Reading} :
    lexer.allowsAll (steps ++ more) = true ↔
      lexer.allowsAll steps = true ∧ (lexer.run steps).2.allowsAll more = true := by
  induction steps generalizing lexer with
  | nil => simp [allowsAll, run]
  | cons step steps ih => rw [List.cons_append, allowsAll_cons, ih, allowsAll_cons, run, and_assoc]

/-- Steps do not move the end of the source. -/
theorem Advances.ending {events : List Event} {after : Lexer}
    (moves : lexer.Advances events after) :
    after.position.afterAll after.lexicon.tabWidth after.cursor.rest =
      lexer.position.afterAll lexer.lexicon.tabWidth lexer.cursor.rest := by
  obtain ⟨read, left, place⟩ := moves.moved
  rw [place, moves.lexicon, left, Position.afterAll_append]

/-- **Raw text in a sequence** of steps is taken from what the steps before it left. -/
theorem run_takesRaw (delimiters : lexer.lexicon.HasDelimiters) {before after : List Reading}
    (allowed : lexer.allowsAll (before ++ .raw stop :: after) = true) :
    ∃ result, (lexer.run (before ++ .raw stop :: after)).1[before.length]?
        = some (.raw stop, .raw result)
      ∧ TakesRaw stop (lexer.position.afterAll lexer.lexicon.tabWidth lexer.cursor.rest)
        (lexer.run before).2.cursor.rest result
        (lexer.run (before ++ [.raw stop])).2.cursor.rest := by
  have moves := run_advances delimiters (allowsAll_append.1 allowed).1
  refine ⟨((lexer.run before).2.rawUntil stop).1, ?_, ?_⟩
  · rw [run_append, List.getElem?_append_right (Nat.le_of_eq (length_run lexer before)),
      length_run, Nat.sub_self]
    rfl
  · rw [run_append, ← moves.ending]
    exact rawUntil_takesRaw _ stop

/-! ## Any order of steps -/

/-- **Nothing is lost or read twice**, in whatever order tokens are looked at and taken
and raw text is taken, if raw text is taken only when no token is ahead.

The position is that behind everything that was read.  As long as no raw text ran into the
end, the texts that were taken, the token ahead and the unread text are the source, in
which a carriage return before a line feed does not count.  Each raw text reaches to the
next `stop`, and there is none only if no `stop` is left, with the error at the end of the
source.  Without the steps that only look at tokens the same is given. -/
theorem run_conserves {options : LexicalOptions} (valid : options.validate = .ok ())
    (source : String) :
    ∃ lexer, ofSource? options source = .ok lexer ∧
      ∀ steps : List Reading, lexer.allowsAll steps = true →
        let text := replaceAll source.toList ['\r', '\n'] ['\n']
        let events := (lexer.run steps).1
        let last := (lexer.run steps).2
        (∃ read, text = read ++ last.cursor.rest
            ∧ last.position = Position.start.afterAll options.tabWidth read)
          ∧ ((∀ event ∈ events, event.failed = false) →
            text = events.flatMap Event.taken ++ last.aheadText ++ last.cursor.rest)
          ∧ (∀ before stop after, steps = before ++ .raw stop :: after →
            ∃ result, events[before.length]? = some (.raw stop, .raw result)
              ∧ TakesRaw stop (Position.start.afterAll options.tabWidth text)
                (lexer.run before).2.cursor.rest result
                (lexer.run (before ++ [.raw stop])).2.cursor.rest)
          ∧ (lexer.run (steps.filter (!·.isPeek))).1 = events.filter (!·.1.isPeek) := by
  rw [← normalizeLines_eq_replaceAll]
  have delimiters := LexicalOptions.hasDelimiters valid
  refine ⟨⟨options.lexicon, .ofSource source, none⟩, by rw [ofSource?, valid]; rfl, ?_⟩
  intro steps allowed text events last
  have moves := run_advances delimiters allowed
  refine ⟨moves.moved, fun fine => ?_, ?_, (LooksAhead.run (.inl rfl) allowed).2⟩
  · rw [List.append_assoc]
    exact moves.taken fine
  · rintro before stop after rfl
    exact run_takesRaw delimiters allowed

/-- A token that was looked at, raw text up to a quote, and the quote, with a line end that
is left: the texts in order are the source. -/
theorem run_conserves_quote :
    LexicalOptions.validate {} = .ok () ∧
      ∃ lexer, ofSource? {} "a b\"\r\nc" = .ok lexer
        ∧ lexer.allowsAll [.peek, .next, .raw '"', .peek, .next] = true
        ∧ "a b\"\nc".toList =
          (lexer.run [.peek, .next, .raw '"', .peek, .next]).1.flatMap Event.taken
            ++ (lexer.run [.peek, .next, .raw '"', .peek, .next]).2.aheadText
            ++ (lexer.run [.peek, .next, .raw '"', .peek, .next]).2.cursor.rest := by
  have valid : LexicalOptions.validate {} = .ok () := by decide
  obtain ⟨lexer, made, keeps⟩ := run_conserves valid "a b\"\r\nc"
  obtain rfl : lexer = ⟨LexicalOptions.lexicon {}, .ofSource "a b\"\r\nc", none⟩ :=
    (Except.ok.inj made).symm
  have allowed : Lexer.allowsAll ⟨LexicalOptions.lexicon {}, .ofSource "a b\"\r\nc", none⟩
      [.peek, .next, .raw '"', .peek, .next] = true := by
    decide +kernel
  have source : "a b\"\nc".toList = replaceAll "a b\"\r\nc".toList ['\r', '\n'] ['\n'] := by
    decide
  obtain ⟨-, joined, -⟩ := keeps _ allowed
  refine ⟨valid, _, made, allowed, source.trans (joined ?_)⟩
  decide +kernel

end Lexer

end ViewTemplate.Template
