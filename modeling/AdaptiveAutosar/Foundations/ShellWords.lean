import AdaptiveAutosar.Foundations.Cursor

/-! # The words of a shell command

A command line read byte by byte under the quoting rules of the POSIX shell. It has words only when
it is one simple command without expansions and redirections: the other constructs give none. The
words of a command hold no byte that is not in its line.
-/

namespace Foundations.Shell
set_option autoImplicit false

def blank : List UInt8 := [0x20, 0x09]
def newline : UInt8 := 0x0a
def hash : UInt8 := 0x23
def tilde : UInt8 := 0x7e
def backslash : UInt8 := 0x5c
def doubleQuote : UInt8 := 0x22
def singleQuote : UInt8 := 0x27

/-- What starts an expansion, also between double quotes. -/
def expansions : List UInt8 := [0x24, 0x60]

/-- Outside quotes: the expansions, the operators and the bytes of patterns. -/
def active : List UInt8 := expansions ++ [0x7c, 0x26, 0x3b, 0x3c, 0x3e, 0x28, 0x29, 0x2a, 0x3f, 0x5b]

inductive Mode where
  | bare
  | escaped
  | double
  | doubleEscaped
  | single
  | comment
  /-- Behind the newline that ends the command. -/
  | ended
  deriving DecidableEq, Repr

/-- The words so far and the word that is being read, if one has begun. -/
structure Lexing where
  done : List Bytes
  word : Option Bytes
  mode : Mode
  deriving DecidableEq, Repr

namespace Lexing

def push (lexing : Lexing) (byte : UInt8) : Lexing :=
  { lexing with word := some (lexing.word.getD [] ++ [byte]) }

def close (lexing : Lexing) : Lexing :=
  { lexing with done := lexing.done ++ lexing.word.toList, word := none }

def into (lexing : Lexing) (mode : Mode) : Lexing := { lexing with mode }

/-- The word has begun, though it may stay empty. -/
def begun (lexing : Lexing) : Lexing := { lexing with word := some (lexing.word.getD []) }

def readBare (lexing : Lexing) (byte : UInt8) : Option Lexing :=
  if byte ∈ blank then some lexing.close
  else if byte = newline then some (lexing.close.into .ended)
  else if byte = hash ∧ lexing.word = none then some (lexing.into .comment)
  else if byte = tilde ∧ lexing.word = none then none
  else if byte = backslash then some (lexing.into .escaped)
  else if byte = doubleQuote then some (lexing.begun.into .double)
  else if byte = singleQuote then some (lexing.begun.into .single)
  else if byte ∈ active then none
  else some (lexing.push byte)

def readDouble (lexing : Lexing) (byte : UInt8) : Option Lexing :=
  if byte = doubleQuote then some (lexing.into .bare)
  else if byte = backslash then some (lexing.into .doubleEscaped)
  else if byte ∈ expansions then none
  else some (lexing.push byte)

def read (lexing : Lexing) (byte : UInt8) : Option Lexing :=
  match lexing.mode with
  | .bare => lexing.readBare byte
  | .escaped =>
    -- a backslash and a newline are a line continuation
    if byte = newline then some (lexing.into .bare) else some ((lexing.push byte).into .bare)
  | .double => lexing.readDouble byte
  | .doubleEscaped =>
    if byte = newline then some (lexing.into .double)
    else if byte ∈ expansions ∨ byte = doubleQuote ∨ byte = backslash then
      some ((lexing.push byte).into .double)
    else some (((lexing.push backslash).push byte).into .double)
  | .single =>
    if byte = singleQuote then some (lexing.into .bare) else some (lexing.push byte)
  | .comment => if byte = newline then some (lexing.into .ended) else some lexing
  | .ended =>
    if byte ∈ blank ∨ byte = newline then some lexing
    else if byte = hash then some (lexing.into .comment)
    else none

/-- Nothing may be left open at the end. -/
def finish (lexing : Lexing) : Option (List Bytes) :=
  match lexing.mode with
  | .bare | .comment | .ended => some lexing.close.done
  | .escaped | .double | .doubleEscaped | .single => none

end Lexing

def start : Lexing := ⟨[], none, .bare⟩

/-- The words of a line that is one simple command. -/
def simpleCommand (line : Bytes) : Option (List Bytes) := (line.foldlM Lexing.read start).bind Lexing.finish

/-! ## Which bytes the words hold -/

namespace Lexing
variable {lexing next : Lexing} {byte : UInt8}

/-- The bytes of the words so far. -/
def held (lexing : Lexing) : Bytes := lexing.done.flatten ++ lexing.word.getD []

@[simp] theorem held_push : (lexing.push byte).held = lexing.held ++ [byte] := by
  simp [held, push]

@[simp] theorem held_close : lexing.close.held = lexing.held := by
  cases h : lexing.word <;> simp [held, close, h]

@[simp] theorem held_into (mode : Mode) : (lexing.into mode).held = lexing.held := rfl

@[simp] theorem held_begun : lexing.begun.held = lexing.held := by
  simp [held, begun]

@[simp] theorem mode_push : (lexing.push byte).mode = lexing.mode := rfl
@[simp] theorem mode_close : lexing.close.mode = lexing.mode := rfl
@[simp] theorem mode_into (mode : Mode) : (lexing.into mode).mode = mode := rfl
@[simp] theorem mode_begun : lexing.begun.mode = lexing.mode := rfl

/-- The backslash that may still go into the word. -/
def pending (mode : Mode) : Bytes := if mode = .doubleEscaped then [backslash] else []

/-- The bytes taken into the words so far. -/
def taken (lexing : Lexing) : Bytes := lexing.held ++ pending lexing.mode

/-- Whatever is taken is taken from the line, in its order. -/
theorem taken_read (h : lexing.read byte = some next) : next.taken.Sublist (lexing.taken ++ [byte]) := by
  unfold read at h
  split at h
  case h_1 bare =>
    unfold readBare at h
    split_ifs at h <;> cases h <;> simp [taken, pending, bare]
  case h_2 escaped =>
    split_ifs at h <;> cases h <;> simp [taken, pending, escaped]
  case h_3 double =>
    unfold readDouble at h
    split_ifs at h <;> cases h <;> simp_all [taken, pending]
  case h_4 doubleEscaped =>
    split_ifs at h <;> cases h <;> simp [taken, pending, doubleEscaped]
  case h_5 single =>
    split_ifs at h <;> cases h <;> simp [taken, pending, single]
  case h_6 comment =>
    split_ifs at h <;> cases h <;> simp [taken, pending, comment]
  case h_7 ended =>
    split_ifs at h <;> cases h <;> simp [taken, pending, ended]

theorem taken_reads {line : Bytes} (h : line.foldlM read lexing = some next) :
    next.taken.Sublist (lexing.taken ++ line) := by
  induction line generalizing lexing with
  | nil =>
    cases h
    simp
  | cons byte rest ih =>
    obtain ⟨between, first, others⟩ := Option.bind_eq_some_iff.mp h
    have sublist := (ih others).trans ((taken_read first).append_right rest)
    rwa [List.append_assoc] at sublist

/-! ## Lines that keep their backslashes and single quotes -/

/-- The steps that take away a backslash or a single quote. -/
def Unquotes (mode : Mode) (byte : UInt8) : Prop :=
  match mode with
  | .bare => byte = backslash ∨ byte = singleQuote
  | .doubleEscaped => byte = newline ∨ byte ∈ expansions ∨ byte = doubleQuote ∨ byte = backslash
  | .escaped | .single => True
  | .double | .comment | .ended => False

instance (mode : Mode) (byte : UInt8) : Decidable (Unquotes mode byte) := by
  unfold Unquotes
  split <;> infer_instance

/-- `read` without these steps. -/
def readPlain (lexing : Lexing) (byte : UInt8) : Option Lexing :=
  if Unquotes lexing.mode byte then none else lexing.read byte

theorem readPlain_eq_some :
    lexing.readPlain byte = some next ↔ ¬ Unquotes lexing.mode byte ∧ lexing.read byte = some next := by
  unfold readPlain
  split_ifs with unquotes <;> simp [unquotes]

/-- Without these steps, no word holds a double quote. -/
theorem held_readPlain (h : lexing.readPlain byte = some next) (clean : doubleQuote ∉ lexing.held) :
    doubleQuote ∉ next.held := by
  obtain ⟨kept, h⟩ := readPlain_eq_some.mp h
  unfold read at h
  split at h
  case h_1 bare =>
    unfold readBare at h
    split_ifs at h <;> cases h <;> simp_all [eq_comm]
  case h_2 escaped => simp [Unquotes, escaped] at kept
  case h_3 double =>
    unfold readDouble at h
    split_ifs at h <;> cases h <;> simp_all [eq_comm]
  case h_4 doubleEscaped =>
    simp only [Unquotes, doubleEscaped, not_or] at kept
    obtain ⟨noNewline, noExpansion, noDouble, noBackslash⟩ := kept
    have differ : doubleQuote ≠ backslash := by decide
    split_ifs at h <;> cases h <;> simp_all [eq_comm]
  case h_5 single => simp [Unquotes, single] at kept
  case h_6 comment =>
    split_ifs at h <;> cases h <;> exact clean
  case h_7 ended =>
    split_ifs at h <;> cases h <;> exact clean

theorem held_readsPlain {line : Bytes} (h : line.foldlM readPlain lexing = some next)
    (clean : doubleQuote ∉ lexing.held) : doubleQuote ∉ next.held := by
  induction line generalizing lexing with
  | nil =>
    cases h
    exact clean
  | cons byte rest ih =>
    obtain ⟨between, first, others⟩ := Option.bind_eq_some_iff.mp h
    exact ih others (held_readPlain first clean)

/-- Outside single quotes and not behind a backslash. -/
def Plain (mode : Mode) : Prop := mode ≠ .escaped ∧ mode ≠ .single

/-- Such a step takes a byte away for good. -/
theorem unquotes_loses (plain : Plain lexing.mode) (unquotes : Unquotes lexing.mode byte)
    (h : lexing.read byte = some next) :
    ∃ b, (b = backslash ∨ b = singleQuote) ∧ next.taken.count b < (lexing.taken ++ [byte]).count b := by
  obtain ⟨unescaped, unquoted⟩ := plain
  unfold Unquotes at unquotes
  split at unquotes
  case h_1 bare =>
    obtain rfl | rfl := unquotes
    · refine ⟨backslash, Or.inl rfl, ?_⟩
      have after : lexing.read backslash = some (lexing.into .escaped) := by
        simp [read, bare, readBare, blank, newline, hash, tilde, backslash]
      cases h.symm.trans after
      simp [taken, pending, bare]
    · refine ⟨singleQuote, Or.inr rfl, ?_⟩
      have after : lexing.read singleQuote = some (lexing.begun.into .single) := by
        simp [read, bare, readBare, blank, newline, hash, tilde, backslash, doubleQuote, singleQuote]
      cases h.symm.trans after
      simp [taken, pending, bare]
  case h_2 doubleEscaped =>
    refine ⟨backslash, Or.inl rfl, ?_⟩
    simp only [read, doubleEscaped] at h
    split_ifs at h with isNewline isSpecial
    · cases h
      simp [taken, pending, doubleEscaped]
    · cases h
      simp [taken, pending, doubleEscaped]
    · exact absurd unquotes (by simp_all)
  all_goals simp_all

theorem plain_read (plain : Plain lexing.mode) (h : lexing.readPlain byte = some next) : Plain next.mode := by
  obtain ⟨kept, h⟩ := readPlain_eq_some.mp h
  obtain ⟨unescaped, unquoted⟩ := plain
  unfold read at h
  split at h
  case h_1 bare =>
    simp only [Unquotes, bare, not_or] at kept
    unfold readBare at h
    split_ifs at h <;> cases h <;> simp_all [Plain]
  case h_3 double =>
    unfold readDouble at h
    split_ifs at h <;> cases h <;> simp_all [Plain]
  case h_4 doubleEscaped =>
    split_ifs at h <;> cases h <;> simp [Plain]
  case h_6 comment =>
    split_ifs at h <;> cases h <;> simp_all [Plain]
  case h_7 ended =>
    split_ifs at h <;> cases h <;> simp_all [Plain]
  all_goals contradiction

/-- A line whose backslashes and single quotes are all in its words was read without these steps. -/
theorem readsPlain_of_count {line : Bytes} (plain : Plain lexing.mode)
    (h : line.foldlM read lexing = some next)
    (keeps : ∀ b, b = backslash ∨ b = singleQuote → (lexing.taken ++ line).count b ≤ next.taken.count b) :
    line.foldlM readPlain lexing = some next := by
  induction line generalizing lexing with
  | nil => exact h
  | cons byte rest ih =>
    obtain ⟨between, first, others⟩ := Option.bind_eq_some_iff.mp h
    have later (b : UInt8) : next.taken.count b ≤ (between.taken ++ rest).count b :=
      (taken_reads others).count_le b
    have now (b : UInt8) : between.taken.count b ≤ (lexing.taken ++ [byte]).count b :=
      (taken_read first).count_le b
    simp only [List.count_append, List.count_cons] at keeps later now
    have kept : ¬ Unquotes lexing.mode byte := by
      intro unquotes
      obtain ⟨b, quote, loses⟩ := unquotes_loses plain unquotes first
      have := keeps b quote
      have := later b
      simp only [List.count_append, List.count_cons] at loses
      simp only [List.count_nil] at loses
      omega
    have first' := readPlain_eq_some.mpr ⟨kept, first⟩
    refine Option.bind_eq_some_iff.mpr ⟨between, first', ih (plain_read plain first') others ?_⟩
    intro b quote
    have := keeps b quote
    have := now b
    simp only [List.count_append, List.count_nil] at *
    omega

theorem finish_eq_some {words : List Bytes} (h : lexing.finish = some words) :
    words.flatten = lexing.taken := by
  have closed : lexing.close.done.flatten = lexing.held := by
    have : lexing.close.held = lexing.held := held_close
    simpa [held, close] using this
  unfold finish at h
  split at h
  case h_1 bare =>
    cases h
    simp [closed, taken, pending, bare]
  case h_2 comment =>
    cases h
    simp [closed, taken, pending, comment]
  case h_3 ended =>
    cases h
    simp [closed, taken, pending, ended]
  all_goals cases h

end Lexing

/-- The words of a command are taken from its line, in its order. -/
theorem flatten_sublist {line : Bytes} {words : List Bytes} (h : simpleCommand line = some words) :
    words.flatten.Sublist line := by
  obtain ⟨last, reads, finish⟩ := Option.bind_eq_some_iff.mp h
  rw [Lexing.finish_eq_some finish]
  exact Lexing.taken_reads reads

theorem readsPlain_of_kept {line : Bytes} {words : List Bytes} (h : simpleCommand line = some words)
    (keeps : ∀ b, b = backslash ∨ b = singleQuote → line.count b ≤ words.flatten.count b) :
    ∃ last, line.foldlM Lexing.readPlain start = some last ∧ doubleQuote ∉ words.flatten := by
  obtain ⟨last, reads, finish⟩ := Option.bind_eq_some_iff.mp h
  have flat := Lexing.finish_eq_some finish
  rw [flat] at keeps
  have plain := Lexing.readsPlain_of_count (by simp [Lexing.Plain, start]) reads keeps
  have held : doubleQuote ∉ last.held := Lexing.held_readsPlain plain (by simp [Lexing.held, start])
  have pending : doubleQuote ∉ Lexing.pending last.mode := by
    unfold Lexing.pending
    split_ifs <;> decide
  refine ⟨last, plain, ?_⟩
  rw [flat, Lexing.taken]
  simp [held, pending]

/-! ## Text between double quotes -/

/-- What is special between double quotes. -/
def special : List UInt8 := doubleQuote :: backslash :: expansions

/-- Between double quotes the text stands for itself: it holds nothing special but backslashes that
are followed by an ordinary byte. -/
inductive QuoteSafe : Bytes → Prop where
  | nil : QuoteSafe []
  | byte {b : UInt8} {rest : Bytes} (ordinary : b ∉ special) (safe : QuoteSafe rest) : QuoteSafe (b :: rest)
  | backslash {b : UInt8} {rest : Bytes} (ordinary : b ∉ newline :: special) (safe : QuoteSafe rest) :
      QuoteSafe (backslash :: b :: rest)

namespace QuoteSafe

theorem of_ordinary {text : Bytes} (ordinary : text.all (· ∉ special) = true) : QuoteSafe text := by
  induction text with
  | nil => exact .nil
  | cons b rest ih =>
    rw [List.all_cons, Bool.and_eq_true, decide_eq_true_iff] at ordinary
    exact .byte ordinary.1 (ih ordinary.2)

theorem reads {text : Bytes} (safe : QuoteSafe text) (done : List Bytes) (word rest : Bytes) :
    (text ++ doubleQuote :: rest).foldlM Lexing.read ⟨done, some word, .double⟩ =
      rest.foldlM Lexing.read ⟨done, some (word ++ text), .bare⟩ := by
  induction safe generalizing word with
  | nil =>
    rw [List.append_nil]
    rfl
  | @byte b text ordinary _ ih =>
    have first : Lexing.read ⟨done, some word, .double⟩ b = some ⟨done, some (word ++ [b]), .double⟩ := by
      simp only [special, List.mem_cons, not_or] at ordinary
      simp [Lexing.read, Lexing.readDouble, ordinary, Lexing.push]
    rw [List.cons_append, List.foldlM_cons, first]
    exact (ih (word ++ [b])).trans (by rw [List.append_assoc]; rfl)
  | @backslash b text ordinary _ ih =>
    have second : Lexing.read ⟨done, some word, .doubleEscaped⟩ b =
        some ⟨done, some (word ++ [Shell.backslash, b]), .double⟩ := by
      simp only [special, List.mem_cons, not_or] at ordinary
      simp [Lexing.read, ordinary, Lexing.push, Lexing.into]
    rw [List.cons_append, List.cons_append, List.foldlM_cons]
    show List.foldlM Lexing.read ⟨done, some word, .doubleEscaped⟩ (b :: (text ++ _)) = _
    rw [List.foldlM_cons, second]
    exact (ih (word ++ [Shell.backslash, b])).trans (by rw [List.append_assoc]; rfl)

end QuoteSafe

/-- Text without double quotes that is read between double quotes, and keeps its backslashes, is safe. -/
theorem quoteSafe_of_readsPlain (text : Bytes) {done : List Bytes} {word rest : Bytes} {last : Lexing}
    (h : (text ++ doubleQuote :: rest).foldlM Lexing.readPlain ⟨done, some word, .double⟩ = some last)
    (noQuote : doubleQuote ∉ text) :
    QuoteSafe text ∧ rest.foldlM Lexing.readPlain ⟨done, some (word ++ text), .bare⟩ = some last := by
  match text with
  | [] =>
    rw [List.append_nil]
    exact ⟨.nil, h⟩
  | b :: text =>
    obtain ⟨noQuoteFirst, noQuoteRest⟩ := not_or.mp (fun there => noQuote (List.mem_cons.mpr there))
    obtain ⟨next, first, others⟩ := Option.bind_eq_some_iff.mp h
    by_cases escapes : b = backslash
    · -- the byte behind the backslash must be an ordinary one, which also keeps the closing quote
      subst escapes
      cases first
      match text with
      | [] => cases others
      | c :: text =>
        obtain ⟨after, second, others⟩ := Option.bind_eq_some_iff.mp others
        obtain ⟨kept, second⟩ := Lexing.readPlain_eq_some.mp second
        have ordinary : c ∉ newline :: special := by
          simp only [special, List.mem_cons, not_or]
          simp only [Lexing.Unquotes, Lexing.into, not_or] at kept
          simp_all
        have written : Lexing.read ⟨done, some word, .doubleEscaped⟩ c =
            some ⟨done, some (word ++ [backslash, c]), .double⟩ := by
          simp only [special, List.mem_cons, not_or] at ordinary
          simp [Lexing.read, ordinary, Lexing.push, Lexing.into]
        cases second.symm.trans written
        obtain ⟨safe, reads⟩ := quoteSafe_of_readsPlain text others
          (fun there => noQuoteRest (List.mem_cons_of_mem c there))
        refine ⟨.backslash ordinary safe, ?_⟩
        rwa [List.append_assoc] at reads
    · obtain ⟨-, first⟩ := Lexing.readPlain_eq_some.mp first
      simp only [Lexing.read, Lexing.readDouble] at first
      split_ifs at first with closes
      · exact absurd closes.symm noQuoteFirst
      · cases first
        obtain ⟨safe, reads⟩ := quoteSafe_of_readsPlain text others noQuoteRest
        refine ⟨.byte ?_ safe, ?_⟩
        · simp only [special, List.mem_cons, not_or]
          simp_all
        · rwa [List.append_assoc] at reads

end Foundations.Shell
