import Mathlib.Data.List.DropRight

/-!
# Words of a configuration

How NGINX reads the next word of a configuration. A word in quotes ends at the first such quote, a
bare one at a separator, a semicolon or an opening brace; a backslash protects the character after
it, and some pairs of a backslash and a character stand for one character.

A text is written as a word by a backslash before each character that would end it. This is enough
to get the text back exactly when all of its own backslashes stand for themselves, and enough to
end the word where it should end exactly when they come in even runs where it matters.
-/
namespace BucketVhosts.Nginx

/-! ## Reading -/

/-- Whether a character separates words. -/
def isSeparator (c : Char) : Bool :=
  c = ' ' || c = '\t' || c = '\r' || c = '\n'

/-- Whether a character ends a bare word. -/
def endsBare (c : Char) : Bool :=
  isSeparator c || c = ';' || c = '\x7b'

/-- The text up to the first unprotected character that stops a word, and the text from there on.
`guarded` tells whether the first character is protected by a backslash before it. -/
def scan (stops : Char → Bool) (guarded : Bool) : List Char → Option (List Char × List Char)
  | [] => none
  | c :: rest =>
    if !guarded && stops c then some ([], c :: rest)
    else (scan stops (!guarded && c = '\\') rest).map fun (word, rest) => (c :: word, rest)

/-- What a backslash and a character after it stand for. -/
def pairMeaning (c : Char) : List Char :=
  if c = '"' || c = '\'' || c = '\\' then [c]
  else if c = 't' then ['\t']
  else if c = 'r' then ['\r']
  else if c = 'n' then ['\n']
  else ['\\', c]

/-- What the spelling of a word stands for. -/
def meaning : List Char → List Char
  | [] => []
  | '\\' :: c :: rest => pairMeaning c ++ meaning rest
  | c :: rest => c :: meaning rest

/-- The next word with the text behind it, none if a terminator comes first. `commented` tells
whether the text starts inside of a comment. -/
def nextWord (commented : Bool) : List Char → Option (List Char × List Char)
  | [] => none
  | c :: rest =>
    if commented then nextWord (c ≠ '\n') rest
    else if isSeparator c then nextWord false rest
    else if c = '#' then nextWord true rest
    else if c = '"' || c = '\'' then
      (scan (· = c) false rest).map fun (word, rest) => (meaning word, rest.tail)
    else if c = ';' || c = '\x7b' || c = '\x7d' then none
    else (scan endsBare false (c :: rest)).map fun (word, rest) => (meaning word, rest)

/-- The text with a backslash before each character that stops a word. -/
def protect (stops : Char → Bool) (cs : List Char) : List Char :=
  cs.flatMap fun c => if stops c then ['\\', c] else [c]

/-! ## Scanning -/

section
variable {stops : Char → Bool} {text word rest : List Char}

/-- A scan splits its text before a character that stops a word. -/
theorem eq_append_of_scan {guarded : Bool} (h : scan stops guarded text = some (word, rest)) :
    text = word ++ rest ∧ ∃ c tail, rest = c :: tail ∧ stops c = true := by
  induction text generalizing guarded word with
  | nil => cases h
  | cons c tail ih =>
      rw [scan] at h
      split at h
      · rename_i hstop
        cases h
        rw [Bool.and_eq_true] at hstop
        exact ⟨rfl, c, tail, rfl, hstop.2⟩
      · rw [Option.map_eq_some_iff] at h
        obtain ⟨⟨word', rest'⟩, hscan, heq⟩ := h
        cases heq
        obtain ⟨rfl, hrest⟩ := ih hscan
        exact ⟨rfl, hrest⟩

/-- The text behind a word is no longer than the text before it was read. -/
theorem length_le_of_nextWord {commented : Bool} (h : nextWord commented text = some (word, rest)) :
    rest.length ≤ text.length := by
  induction text generalizing commented with
  | nil => cases h
  | cons c tail ih =>
      -- What a scan leaves is a part of its text.
      have hscanned : ∀ {stops text inner after}, scan stops false text = some (inner, after) →
          after.length ≤ text.length := by
        intro stops text inner after hscan
        rw [(eq_append_of_scan hscan).1, List.length_append]
        omega
      rw [nextWord] at h
      rw [List.length_cons]
      split at h
      · exact Nat.le_succ_of_le (ih h)
      split at h
      · exact Nat.le_succ_of_le (ih h)
      split at h
      · exact Nat.le_succ_of_le (ih h)
      split at h
      · obtain ⟨⟨inner, after⟩, hscan, heq⟩ := Option.map_eq_some_iff.mp h
        cases heq
        have hle := hscanned hscan
        rw [List.length_tail]
        omega
      split at h
      · cases h
      · obtain ⟨⟨inner, after⟩, hscan, heq⟩ := Option.map_eq_some_iff.mp h
        cases heq
        simpa using hscanned hscan

end

/-! ## Protected texts -/

section
variable {stops : Char → Bool} {t : Char} {v after : List Char}

/-- Whether the next character is protected after these characters. -/
def guardedAfter (guarded : Bool) (cs : List Char) : Bool :=
  cs.foldl (fun guarded c => !guarded && c = '\\') guarded

/-- The scan of a protected text does not stop inside of it, and is not prevented from stopping
behind it. -/
def stopsBehind (stops : Char → Bool) (guarded : Bool) : List Char → Bool
  | [] => !guarded
  | c :: rest => (!stops c || !guarded) && stopsBehind stops (!guarded && c = '\\') rest

theorem protect_cons (c : Char) (rest : List Char) :
    protect stops (c :: rest) =
      (if stops c then ['\\', c] else [c]) ++ protect stops rest := by
  rw [protect, List.flatMap_cons, protect]

theorem protect_eq_self (h : ∀ c ∈ v, stops c = false) : protect stops v = v := by
  induction v with
  | nil => rfl
  | cons c rest ih =>
      rw [List.forall_mem_cons] at h
      rw [protect_cons, h.1, ih h.2]
      rfl

/-- A protected text is scanned up to its end exactly when `stopsBehind` says so. -/
theorem scan_protect_iff (hbackslash : stops '\\' = false) (ht : stops t = true) (guarded : Bool) :
    scan stops guarded (protect stops v ++ t :: after) = some (protect stops v, t :: after) ↔
      stopsBehind stops guarded v = true := by
  induction v generalizing guarded with
  | nil => cases guarded <;> simp [protect, scan, stopsBehind, ht]
  | cons c rest ih =>
      rw [protect_cons, stopsBehind]
      -- A character that would stop the word has its own backslash before it, which protects it
      -- only if it is not itself protected by another one.
      by_cases hstop : stops c = true
      · have hne : c ≠ '\\' := by
          rintro rfl
          rw [hbackslash] at hstop
          cases hstop
        cases guarded with
        | true => simp [hstop, scan, hbackslash]
        | false => simpa [hstop, scan, hbackslash, hne] using ih false
      · cases guarded with
        | true => simpa [hstop, scan] using ih false
        | false => simpa [hstop, scan] using ih (decide (c = '\\'))

/-- What a word is read as, given that it ends where the text does. -/
theorem scan_protect_eq {guarded : Bool} {word : List Char}
    (h : scan stops guarded (protect stops v ++ t :: after) = some (word, t :: after)) :
    word = protect stops v :=
  (List.append_cancel_right (eq_append_of_scan h).1).symm

end

/-! ## Runs of backslashes -/

/-- The text does not end in an odd run of backslashes. -/
def EndsEven (cs : List Char) : Prop :=
  (cs.rtakeWhile (· = '\\')).length % 2 = 0

/-- Wherever the text ends or has a character that stops a word, the backslashes before that place
are even in number. -/
def ClosesBehind (stops : Char → Bool) (v : List Char) : Prop :=
  ∀ before after, v = before ++ after → (∀ c ∈ after.head?, stops c = true) → EndsEven before

/-- A character is protected exactly behind an odd run of backslashes. -/
theorem guardedAfter_eq_false_iff {cs : List Char} :
    guardedAfter false cs = false ↔ EndsEven cs := by
  induction cs using List.reverseRecOn with
  | nil => simp [guardedAfter, EndsEven]
  | append_singleton cs c ih =>
      have hstep : guardedAfter false (cs ++ [c]) = (!guardedAfter false cs && c = '\\') := by
        simp [guardedAfter]
      rw [hstep, EndsEven]
      by_cases hc : c = '\\'
      · rw [List.rtakeWhile_concat_pos _ _ _ (by simpa using hc), List.length_append,
          List.length_singleton]
        rw [EndsEven] at ih
        cases hguard : guardedAfter false cs with
        | true =>
            have hodd : ¬(cs.rtakeWhile (· = '\\')).length % 2 = 0 := by
              rw [← ih, hguard]
              simp
            simp only [Bool.not_true, Bool.false_and, true_iff]
            omega
        | false =>
            have heven := ih.mp hguard
            simp only [hc, Bool.not_false, decide_true, Bool.and_self, Bool.true_eq_false,
              false_iff]
            omega
      · rw [List.rtakeWhile_concat_neg _ _ _ (by simpa using hc)]
        simp [hc]

theorem stopsBehind_iff_guardedAfter {stops : Char → Bool} {guarded : Bool} {v : List Char} :
    stopsBehind stops guarded v = true ↔
      ∀ before after, v = before ++ after → (∀ c ∈ after.head?, stops c = true) →
        guardedAfter guarded before = false := by
  induction v generalizing guarded with
  | nil =>
      rw [stopsBehind]
      constructor
      · intro h before after hsplit _
        obtain ⟨rfl, rfl⟩ := List.nil_eq_append_iff.mp hsplit
        simpa [guardedAfter] using h
      · intro h
        simpa [guardedAfter] using h [] [] rfl (by simp)
  | cons c rest ih =>
      rw [stopsBehind, Bool.and_eq_true, ih]
      constructor
      · rintro ⟨hfirst, hrest⟩ before after hsplit hstop
        cases before with
        | nil =>
            obtain rfl : c :: rest = after := hsplit
            simpa [hstop c rfl, guardedAfter] using hfirst
        | cons d before =>
            obtain ⟨rfl, rfl⟩ := List.cons_eq_cons.mp hsplit
            exact hrest before after rfl hstop
      · intro h
        constructor
        · by_cases hstop : stops c = true
          · have hfirst := h [] (c :: rest) rfl (by simpa using hstop)
            simpa [hstop, guardedAfter] using hfirst
          · simp [hstop]
        · intro before after hsplit hstop
          exact h (c :: before) after (by rw [hsplit, List.cons_append]) hstop

theorem stopsBehind_iff {stops : Char → Bool} {v : List Char} :
    stopsBehind stops false v = true ↔ ClosesBehind stops v := by
  simp only [stopsBehind_iff_guardedAfter, guardedAfter_eq_false_iff, ClosesBehind]

instance (stops : Char → Bool) (v : List Char) : Decidable (ClosesBehind stops v) :=
  decidable_of_iff _ stopsBehind_iff

/-- In a text without a character that stops a word only the backslashes at its end matter. -/
theorem stopsBehind_iff_endsEven {stops : Char → Bool} {v : List Char}
    (hfree : ∀ c ∈ v, stops c = false) : stopsBehind stops false v = true ↔ EndsEven v := by
  rw [stopsBehind_iff]
  constructor
  · intro h
    exact h v [] (by simp) (by simp)
  · intro h before after hsplit hstop
    cases after with
    | nil =>
        rw [List.append_nil] at hsplit
        rwa [← hsplit]
    | cons c rest =>
        have hstops := hstop c rfl
        rw [hfree c (by simp [hsplit])] at hstops
        cases hstops

/-! ## Backslashes that stand for themselves -/

/-- Every backslash of the text has a character behind it with which it stands for itself. -/
def KeepsBackslashes (v : List Char) : Prop :=
  ∀ before after, v = before ++ '\\' :: after →
    after.head?.any fun c => pairMeaning c = ['\\', c]

theorem keepsBackslashes_nil : KeepsBackslashes [] := by
  intro before after h
  simp at h

theorem keepsBackslashes_cons_iff {c : Char} {rest : List Char} :
    KeepsBackslashes (c :: rest) ↔
      (c = '\\' → rest.head?.any fun d => pairMeaning d = ['\\', d]) ∧ KeepsBackslashes rest := by
  constructor
  · intro h
    constructor
    · rintro rfl
      exact h [] rest rfl
    · intro before after hsplit
      exact h (c :: before) after (by rw [hsplit, List.cons_append])
  · rintro ⟨hfirst, hrest⟩ before after hsplit
    cases before with
    | nil =>
        obtain ⟨rfl, rfl⟩ := List.cons_eq_cons.mp hsplit
        exact hfirst rfl
    | cons d before =>
        obtain ⟨rfl, rfl⟩ := List.cons_eq_cons.mp hsplit
        exact hrest before after rfl

/-- Whether every backslash stands for itself can be decided from the front. -/
instance decideKeepsBackslashes : (v : List Char) → Decidable (KeepsBackslashes v)
  | [] => .isTrue keepsBackslashes_nil
  | _ :: rest =>
    haveI : Decidable (KeepsBackslashes rest) := decideKeepsBackslashes rest
    decidable_of_iff _ keepsBackslashes_cons_iff.symm

example : KeepsBackslashes ['^', '/', '\\', 'd', '$'] := by decide

example : ¬KeepsBackslashes ['C', ':', '\\', 't', 'm', 'p'] := by decide

/-! ## The meaning of a protected text -/

theorem meaning_cons {c : Char} (hc : c ≠ '\\') (rest : List Char) :
    meaning (c :: rest) = c :: meaning rest := by
  rw [meaning]
  rintro d tail rfl
  exact absurd rfl hc

theorem meaning_pair (c : Char) (rest : List Char) :
    meaning ('\\' :: c :: rest) = pairMeaning c ++ meaning rest := rfl

/-- A pair stands for its second character, for a control character, or for itself. -/
theorem length_pairMeaning {c : Char} (h : pairMeaning c ≠ ['\\', c]) :
    (pairMeaning c).length = 1 := by
  rw [pairMeaning] at *
  split
  · rfl
  split
  · rfl
  split
  · rfl
  split
  · rfl
  · simp_all

section
variable {stops : Char → Bool} {c : Char} {v rest : List Char}

theorem meaning_protect_cons (hc : c ≠ '\\') (hquote : stops c = true → pairMeaning c = [c]) :
    meaning (protect stops (c :: rest)) = c :: meaning (protect stops rest) := by
  rw [protect_cons]
  by_cases hstop : stops c = true
  · rw [if_pos hstop]
    show meaning ('\\' :: c :: protect stops rest) = _
    rw [meaning_pair, hquote hstop, List.singleton_append]
  · rw [if_neg hstop]
    exact meaning_cons hc _

theorem meaning_protect_pair (hbackslash : stops '\\' = false) (hfree : stops c = false) :
    meaning (protect stops ('\\' :: c :: rest)) =
      pairMeaning c ++ meaning (protect stops rest) := by
  rw [protect_cons, protect_cons, hbackslash, hfree]
  exact meaning_pair c _

theorem stopsBehind_cons (hc : c ≠ '\\') :
    stopsBehind stops false (c :: rest) = stopsBehind stops false rest := by
  simp [stopsBehind, hc]

theorem stopsBehind_pair (hbackslash : stops '\\' = false) :
    stopsBehind stops false ('\\' :: c :: rest) = (!stops c && stopsBehind stops false rest) := by
  simp [stopsBehind, hbackslash]

/-- Protecting a text and reading it back makes it no longer. -/
theorem length_meaning_protect_le (hbackslash : stops '\\' = false)
    (hquotes : ∀ c ∈ v, stops c = true → pairMeaning c = [c])
    (hcloses : stopsBehind stops false v = true) :
    (meaning (protect stops v)).length ≤ v.length := by
  induction v using meaning.induct with
  | case1 => simp [protect, meaning]
  | case2 c rest ih =>
      simp only [List.forall_mem_cons] at hquotes
      rw [stopsBehind_pair hbackslash, Bool.and_eq_true, Bool.not_eq_true'] at hcloses
      have hle := ih hquotes.2.2 hcloses.2
      rw [meaning_protect_pair hbackslash hcloses.1, List.length_append, List.length_cons,
        List.length_cons]
      by_cases hpair : pairMeaning c = ['\\', c]
      · rw [hpair, List.length_cons, List.length_singleton]
        omega
      · rw [length_pairMeaning hpair]
        omega
  | case3 c rest hlast ih =>
      rw [List.forall_mem_cons] at hquotes
      by_cases hc : c = '\\'
      · subst hc
        cases rest with
        | nil => simp [stopsBehind, hbackslash] at hcloses
        | cons d tail => exact (hlast d tail rfl rfl).elim
      · rw [stopsBehind_cons hc] at hcloses
        have hle := ih hquotes.2 hcloses
        rw [meaning_protect_cons hc hquotes.1, List.length_cons, List.length_cons]
        omega

/-- **A protected text is read back** exactly when all backslashes of the text stand for
themselves. Where they do not, a pair is read as one character and the text comes out shorter. -/
theorem meaning_protect_iff (hbackslash : stops '\\' = false)
    (hquotes : ∀ c ∈ v, stops c = true → pairMeaning c = [c]) :
    stopsBehind stops false v = true ∧ meaning (protect stops v) = v ↔ KeepsBackslashes v := by
  induction v using meaning.induct with
  | case1 => simp [stopsBehind, protect, meaning, keepsBackslashes_nil]
  | case2 c rest ih =>
      simp only [List.forall_mem_cons] at hquotes
      rw [stopsBehind_pair hbackslash, Bool.and_eq_true, Bool.not_eq_true',
        keepsBackslashes_cons_iff, keepsBackslashes_cons_iff]
      constructor
      · rintro ⟨⟨hfree, hcloses⟩, hread⟩
        rw [meaning_protect_pair hbackslash hfree] at hread
        -- Otherwise the pair is read as one character, and nothing makes up for the other one.
        have hpair : pairMeaning c = ['\\', c] := by
          by_cases hpair : pairMeaning c = ['\\', c]
          · exact hpair
          · have hlength := congrArg List.length hread
            have hle := length_meaning_protect_le hbackslash hquotes.2.2 hcloses
            rw [List.length_append, length_pairMeaning hpair, List.length_cons,
              List.length_cons] at hlength
            omega
        have hrest : meaning (protect stops rest) = rest := by
          rw [hpair] at hread
          simpa using hread
        refine ⟨fun _ => by simpa using hpair, ?_, (ih hquotes.2.2).mp ⟨hcloses, hrest⟩⟩
        rintro rfl
        exact absurd hpair (by decide)
      · rintro ⟨hfirst, _, hrest⟩
        have hpair : pairMeaning c = ['\\', c] := by simpa using hfirst rfl
        have hfree : stops c = false := by
          by_cases hstop : stops c = true
          · rw [hquotes.2.1 hstop] at hpair
            cases hpair
          · simpa using hstop
        obtain ⟨hcloses, hread⟩ := (ih hquotes.2.2).mpr hrest
        rw [meaning_protect_pair hbackslash hfree, hpair, hread]
        exact ⟨⟨hfree, hcloses⟩, rfl⟩
  | case3 c rest hlast ih =>
      rw [List.forall_mem_cons] at hquotes
      rw [keepsBackslashes_cons_iff]
      by_cases hc : c = '\\'
      · subst hc
        cases rest with
        | nil => simp [stopsBehind, hbackslash]
        | cons d tail => exact (hlast d tail rfl rfl).elim
      · rw [stopsBehind_cons hc, meaning_protect_cons hc hquotes.1, List.cons_eq_cons,
          ← ih hquotes.2]
        simp [hc]

/-- A text without backslashes has none that could be read in another way. -/
theorem keepsBackslashes_of_not_mem (h : '\\' ∉ v) : KeepsBackslashes v := by
  intro before after hsplit
  exact absurd (by simp [hsplit]) h

theorem endsEven_of_keepsBackslashes (h : KeepsBackslashes v) : EndsEven v := by
  have hread : stopsBehind (fun _ => false) false v = true ∧
      meaning (protect (fun _ => false) v) = v ↔ KeepsBackslashes v :=
    meaning_protect_iff rfl (by simp)
  have hcloses := stopsBehind_iff.mp (hread.mpr h).1
  exact hcloses v [] (by simp) (by simp)

end

/-! ## Words that no pair spells -/

/-- The characters with which the meaning of a backslash and a character may start. -/
def pairStarts : List Char :=
  ['"', '\'', '\\', '\t', '\r', '\n']

theorem exists_pairMeaning (c : Char) : ∃ d tail, pairMeaning c = d :: tail ∧ d ∈ pairStarts := by
  rw [pairMeaning]
  split
  · rename_i h
    simp only [Bool.or_eq_true, decide_eq_true_eq] at h
    exact ⟨c, [], rfl, by rcases h with (rfl | rfl) | rfl <;> simp [pairStarts]⟩
  split
  · exact ⟨'\t', [], rfl, by simp [pairStarts]⟩
  split
  · exact ⟨'\r', [], rfl, by simp [pairStarts]⟩
  split
  · exact ⟨'\n', [], rfl, by simp [pairStarts]⟩
  · exact ⟨'\\', [c], rfl, by simp [pairStarts]⟩

theorem meaning_eq_nil_iff {v : List Char} : meaning v = [] ↔ v = [] := by
  cases v using meaning.fun_cases with
  | case1 => simp [meaning]
  | case2 c rest =>
      obtain ⟨d, tail, hpair, -⟩ := exists_pairMeaning c
      simp [meaning, hpair]
  | case3 c rest h =>
      rw [meaning.eq_3 _ _ h]
      simp

/-- A character that starts no pair is spelled by itself. -/
theorem meaning_eq_cons_iff {v w : List Char} {c : Char} (hc : c ∉ pairStarts) :
    meaning v = c :: w ↔ ∃ rest, v = c :: rest ∧ meaning rest = w := by
  cases v using meaning.fun_cases with
  | case1 => simp [meaning]
  | case2 d rest =>
      obtain ⟨e, tail, hpair, he⟩ := exists_pairMeaning d
      constructor
      · intro h
        rw [meaning_pair, hpair] at h
        obtain ⟨rfl, -⟩ := List.cons_eq_cons.mp h
        exact absurd he hc
      · rintro ⟨_, h, -⟩
        obtain ⟨rfl, -⟩ := List.cons_eq_cons.mp h
        exact absurd (by simp [pairStarts]) hc
  | case3 d rest h =>
      rw [meaning.eq_3 _ _ h, List.cons_eq_cons]
      constructor
      · rintro ⟨rfl, hrest⟩
        exact ⟨rest, rfl, hrest⟩
      · rintro ⟨_, h, hrest⟩
        obtain ⟨rfl, rfl⟩ := List.cons_eq_cons.mp h
        exact ⟨rfl, hrest⟩

/-- A word of such characters has one spelling. -/
theorem meaning_eq_iff {v w : List Char} (hw : ∀ c ∈ w, c ∉ pairStarts) :
    meaning v = w ↔ v = w := by
  induction w generalizing v with
  | nil => exact meaning_eq_nil_iff
  | cons c w ih =>
      rw [List.forall_mem_cons] at hw
      rw [meaning_eq_cons_iff hw.1]
      constructor
      · rintro ⟨rest, rfl, hrest⟩
        rw [(ih hw.2).mp hrest]
      · rintro rfl
        exact ⟨w, rfl, (ih hw.2).mpr rfl⟩

theorem head?_meaning_eq_some_iff {v : List Char} {c : Char} (hc : c ∉ pairStarts) :
    (meaning v).head? = some c ↔ v.head? = some c := by
  simp only [List.head?_eq_some_iff, meaning_eq_cons_iff hc]
  constructor
  · rintro ⟨w, rest, rfl, -⟩
    exact ⟨rest, rfl⟩
  · rintro ⟨rest, rfl⟩
    exact ⟨_, rest, rfl, rfl⟩

/-! ## Quoted words -/

section
variable {v after : List Char}

theorem nextWord_quote (text : List Char) :
    nextWord false ('"' :: text) =
      (scan (· = '"') false text).map fun (word, rest) => (meaning word, rest.tail) := rfl

/-- Behind a quoted word that ends before `after`, the scan has stopped at the closing quote. -/
theorem nextWord_quoted_eq_some_iff {word : List Char} :
    nextWord false ('"' :: protect (· = '"') v ++ '"' :: after) = some (word, after) ↔
      stopsBehind (· = '"') false v = true ∧ meaning (protect (· = '"') v) = word := by
  have hscan : scan (· = '"') false (protect (· = '"') v ++ '"' :: after) =
      some (protect (· = '"') v, '"' :: after) ↔ stopsBehind (· = '"') false v = true :=
    scan_protect_iff (by decide) (by decide) false
  rw [List.cons_append, nextWord_quote, Option.map_eq_some_iff]
  constructor
  · rintro ⟨⟨spelling, rest⟩, hfound, heq⟩
    obtain ⟨-, c, tail, rfl, hc⟩ := eq_append_of_scan hfound
    obtain ⟨rfl, rfl⟩ := Prod.mk.inj heq
    obtain rfl : c = '"' := by simpa using hc
    obtain rfl := scan_protect_eq hfound
    exact ⟨hscan.mp hfound, rfl⟩
  · rintro ⟨hcloses, rfl⟩
    exact ⟨_, hscan.mpr hcloses, rfl⟩

/-- **A quoted text is read back** exactly when its backslashes stand for themselves. -/
theorem nextWord_quoted_iff :
    nextWord false ('"' :: protect (· = '"') v ++ '"' :: after) = some (v, after) ↔
      KeepsBackslashes v := by
  have hquotes : ∀ c ∈ v, decide (c = '"') = true → pairMeaning c = [c] := by
    intro c _ hc
    obtain rfl : c = '"' := by simpa using hc
    rfl
  rw [nextWord_quoted_eq_some_iff]
  exact meaning_protect_iff (by decide) hquotes

/-- **A quoted text ends at its closing quote** exactly when no quote of its own and not its end
stands behind an odd run of backslashes. -/
theorem nextWord_quoted_ends_iff :
    (∃ word, nextWord false ('"' :: protect (· = '"') v ++ '"' :: after) = some (word, after)) ↔
      ClosesBehind (· = '"') v := by
  rw [← stopsBehind_iff]
  constructor
  · rintro ⟨word, h⟩
    exact (nextWord_quoted_eq_some_iff.mp h).1
  · intro h
    exact ⟨_, nextWord_quoted_eq_some_iff.mpr ⟨h, rfl⟩⟩

end

/-! ## Bare words -/

/-- The characters that end a bare word, open a quoted one or close a block. -/
def breakers : List Char :=
  [' ', '\t', '\r', '\n', ';', '\x7b', '"', '\'', '\x7d']

/-- Whether a character is an ordinary one of bare words. -/
def isBare (c : Char) : Bool :=
  !breakers.contains c

/-- Characters of a class that has none of the breakers are ordinary. -/
theorem isBare_of_class {p : Char → Bool} (hp : ∀ c ∈ breakers, p c = false) {c : Char}
    (hc : p c = true) : isBare c = true := by
  rw [isBare, Bool.not_eq_true', List.contains_eq_mem, decide_eq_false_iff_not]
  intro hmem
  rw [hp c hmem] at hc
  cases hc

section
variable {t : Char} {v after : List Char}

/-- No word is read before what ends one. -/
theorem nextWord_ne_of_endsBare (ht : endsBare t = true) (word : List Char) :
    nextWord false (t :: after) ≠ some (word, t :: after) := by
  intro h
  by_cases hseparator : isSeparator t = true
  · rw [nextWord, if_neg (by simp), if_pos hseparator] at h
    have hle := length_le_of_nextWord h
    rw [List.length_cons] at hle
    omega
  · have hterminator : t = ';' ∨ t = '\x7b' := by
      simpa [endsBare, hseparator] using ht
    rcases hterminator with rfl | rfl
    · cases h
    · cases h

/-- A comment goes on to the end of its line. -/
theorem nextWord_commented (hline : '\n' ∉ v) :
    nextWord true (v ++ after) = nextWord true after := by
  induction v with
  | nil => rfl
  | cons c rest ih =>
      rw [List.mem_cons, not_or] at hline
      have hc : decide (c ≠ '\n') = true := by simpa using Ne.symm hline.1
      rw [List.cons_append, nextWord, if_pos rfl, hc]
      exact ih hline.2

/-- A comment is not a word. -/
theorem nextWord_comment_ne (hline : '\n' ∉ v) (ht : t ≠ '\n') (word : List Char) :
    nextWord false ('#' :: v ++ t :: after) ≠ some (word, t :: after) := by
  intro h
  have hskip : nextWord true (v ++ t :: after) = nextWord true after := by
    rw [List.append_cons]
    apply nextWord_commented
    intro hmem
    rcases List.mem_append.mp hmem with hmem | hmem
    · exact hline hmem
    · exact ht (List.mem_singleton.mp hmem).symm
  have hread : nextWord true (v ++ t :: after) = some (word, t :: after) := h
  rw [hskip] at hread
  have hle := length_le_of_nextWord hread
  rw [List.length_cons] at hle
  omega

theorem endsBare_of_isBare {c : Char} (h : isBare c = true) : endsBare c = false := by
  simp only [isBare, breakers, Bool.not_eq_true', List.contains_eq_mem, List.mem_cons,
    decide_eq_false_iff_not, not_or] at h
  simp [endsBare, isSeparator, h]

theorem nextWord_of_isBare {c : Char} (h : isBare c = true) (hcomment : c ≠ '#')
    (rest : List Char) :
    nextWord false (c :: rest) =
      (scan endsBare false (c :: rest)).map fun (word, rest) => (meaning word, rest) := by
  simp only [isBare, breakers, Bool.not_eq_true', List.contains_eq_mem, List.mem_cons,
    decide_eq_false_iff_not, not_or] at h
  rw [nextWord]
  simp [isSeparator, hcomment, h]

/-- A text of such characters is read as a word unless it is empty or a comment. -/
theorem nextWord_bare_eq_some_iff (hbare : ∀ c ∈ v, isBare c = true) (ht : endsBare t = true)
    (hline : t ≠ '\n') {word : List Char} :
    nextWord false (v ++ t :: after) = some (word, t :: after) ↔
      v ≠ [] ∧ v.head? ≠ some '#' ∧ stopsBehind endsBare false v = true ∧ meaning v = word := by
  have hfree : ∀ c ∈ v, endsBare c = false := fun c hc => endsBare_of_isBare (hbare c hc)
  have hprotect := protect_eq_self hfree
  have hscan : scan endsBare false (v ++ t :: after) = some (v, t :: after) ↔
      stopsBehind endsBare false v = true := by
    have h : scan endsBare false (protect endsBare v ++ t :: after) =
        some (protect endsBare v, t :: after) ↔ stopsBehind endsBare false v = true :=
      scan_protect_iff (by decide) ht false
    rwa [hprotect] at h
  cases v with
  | nil =>
      constructor
      · intro h
        exact absurd h (nextWord_ne_of_endsBare ht word)
      · rintro ⟨hne, _⟩
        exact absurd rfl hne
  | cons c rest =>
      by_cases hcomment : c = '#'
      · subst hcomment
        have hrest : '\n' ∉ rest := fun hmem =>
          absurd (hfree '\n' (List.mem_cons_of_mem _ hmem)) (by decide)
        constructor
        · intro h
          exact absurd h (nextWord_comment_ne hrest hline word)
        · rintro ⟨_, hne, _⟩
          exact absurd rfl hne
      · rw [List.cons_append, nextWord_of_isBare (hbare c (by simp)) hcomment, ← List.cons_append,
          Option.map_eq_some_iff]
        constructor
        · rintro ⟨⟨spelling, tail⟩, hfound, heq⟩
          obtain ⟨rfl, rfl⟩ := Prod.mk.inj heq
          obtain rfl : spelling = c :: rest :=
            (List.append_cancel_right (eq_append_of_scan hfound).1).symm
          exact ⟨by simp, by simpa using hcomment, hscan.mp hfound, rfl⟩
        · rintro ⟨_, _, hcloses, rfl⟩
          exact ⟨(c :: rest, t :: after), hscan.mpr hcloses, rfl⟩

/-- **A bare text is read as itself** exactly when it is neither empty nor a comment and its
backslashes stand for themselves. -/
theorem nextWord_bare_iff (hbare : ∀ c ∈ v, isBare c = true) (ht : endsBare t = true)
    (hline : t ≠ '\n') :
    nextWord false (v ++ t :: after) = some (v, t :: after) ↔
      v ≠ [] ∧ v.head? ≠ some '#' ∧ KeepsBackslashes v := by
  have hfree : ∀ c ∈ v, endsBare c = false := fun c hc => endsBare_of_isBare (hbare c hc)
  have hquotes : ∀ c ∈ v, endsBare c = true → pairMeaning c = [c] := by
    intro c hc hends
    rw [hfree c hc] at hends
    cases hends
  have hread := meaning_protect_iff (by decide) hquotes
  rw [protect_eq_self hfree] at hread
  rw [nextWord_bare_eq_some_iff hbare ht hline, hread]

/-- **A bare text ends where it should** exactly when it is neither empty nor a comment and does
not end in an odd run of backslashes. -/
theorem nextWord_bare_ends_iff (hbare : ∀ c ∈ v, isBare c = true) (ht : endsBare t = true)
    (hline : t ≠ '\n') :
    (∃ word, nextWord false (v ++ t :: after) = some (word, t :: after)) ↔
      v ≠ [] ∧ v.head? ≠ some '#' ∧ EndsEven v := by
  have hends : stopsBehind endsBare false v = true ↔ EndsEven v :=
    stopsBehind_iff_endsEven fun c hc => endsBare_of_isBare (hbare c hc)
  constructor
  · rintro ⟨word, h⟩
    obtain ⟨hne, hcomment, hcloses, -⟩ := (nextWord_bare_eq_some_iff hbare ht hline).mp h
    exact ⟨hne, hcomment, hends.mp hcloses⟩
  · rintro ⟨hne, hcomment, heven⟩
    exact ⟨_, (nextWord_bare_eq_some_iff hbare ht hline).mpr
      ⟨hne, hcomment, hends.mpr heven, rfl⟩⟩

end

end BucketVhosts.Nginx
