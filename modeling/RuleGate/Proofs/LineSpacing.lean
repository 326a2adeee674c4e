import RuleGate.Proofs.Acceptance
import RuleGate.Proofs.HeaderLines

/-! Documents that are spaced in different ways. Carriage returns before the line feeds, idle lines
between the lines of the header and blanks at their ends change no step of the reading of a rule:
the same block is cut out, the same metadata is read from it, and only the line ends of the message
are kept as they stand. -/

namespace RuleGate

/-! ### Line ends of two characters -/

namespace Text

/-- The text with a carriage return before every line feed. -/
def withReturns (s : List Char) : List Char :=
  s.flatMap fun c => if c = '\n' then ['\r', '\n'] else [c]

theorem withReturns_lineFeed (s : List Char) :
    withReturns ('\n' :: s) = '\r' :: '\n' :: withReturns s := rfl

theorem withReturns_cons {c : Char} (hc : c ≠ '\n') (s : List Char) :
    withReturns (c :: s) = c :: withReturns s := by
  rw [withReturns, List.flatMap_cons, if_neg hc]
  rfl

theorem withReturns_append (a b : List Char) :
    withReturns (a ++ b) = withReturns a ++ withReturns b :=
  List.flatMap_append

theorem trimStart_withReturns (s : List Char) :
    trimStart (withReturns s) = withReturns (trimStart s) := by
  induction s with
  | nil => rfl
  | cons c rest ih =>
      by_cases hc : c = '\n'
      · subst hc
        exact ih
      · rw [withReturns_cons hc, trimStart, trimStart, List.dropWhile_cons, List.dropWhile_cons]
        cases isBlank c with
        | true => exact ih
        | false => exact (withReturns_cons hc rest).symm

theorem trimEnd_withReturns (s : List Char) :
    trimEnd (withReturns s) = withReturns (trimEnd s) := by
  induction s using List.reverseRecOn with
  | nil => rfl
  | append_singleton s c ih =>
      rw [withReturns_append]
      cases hc : isBlank c with
      | true =>
          rw [trimEnd_concat_of_blank hc, ← ih]
          by_cases hfeed : c = '\n'
          · subst hfeed
            change trimEnd (withReturns s ++ (['\r'] ++ ['\n'])) = _
            rw [← List.append_assoc, trimEnd_concat_of_blank (by decide),
              trimEnd_concat_of_blank (by decide)]
          · rw [withReturns_cons hfeed]
            exact trimEnd_concat_of_blank hc _
      | false =>
          have hfeed : c ≠ '\n' := by
            rintro rfl
            exact absurd hc (by decide)
          rw [trimEnd_append_cons hc, withReturns_append, withReturns_cons hfeed,
            trimEnd_append_cons hc]
          exact congrArg (withReturns s ++ ·) (withReturns_cons hfeed []).symm

theorem trim_withReturns (s : List Char) : trim (withReturns s) = withReturns (trim s) := by
  rw [trim, trim, trimStart_withReturns, trimEnd_withReturns]

section Words

variable {word : List Char} (hfeed : '\n' ∉ word) (hreturn : '\r' ∉ word)

include hfeed hreturn

theorem isPrefix_withReturns_iff {s : List Char} : word <+: withReturns s ↔ word <+: s := by
  induction word generalizing s with
  | nil => simp
  | cons d word ih =>
      have ih := @ih (List.not_mem_of_not_mem_cons hfeed) (List.not_mem_of_not_mem_cons hreturn)
      cases s with
      | nil => rfl
      | cons c rest =>
          by_cases hc : c = '\n'
          · subst hc
            rw [withReturns_lineFeed, List.cons_prefix_cons, List.cons_prefix_cons]
            exact iff_of_false (fun h => hreturn (h.1 ▸ List.mem_cons_self))
              fun h => hfeed (h.1 ▸ List.mem_cons_self)
          · rw [withReturns_cons hc, List.cons_prefix_cons, List.cons_prefix_cons, ih]

/-- A word that holds neither end of a line occurs where it occurred before. -/
theorem isInfix_withReturns_iff {s : List Char} : word <:+: withReturns s ↔ word <:+: s := by
  induction s with
  | nil => rfl
  | cons c rest ih =>
      have hprefix := @isPrefix_withReturns_iff word hfeed hreturn
      rw [List.infix_cons_iff, ← ih, ← hprefix]
      by_cases hc : c = '\n'
      · subst hc
        have hskip : word <+: '\n' :: withReturns rest → word <:+: withReturns rest := by
          intro h
          cases word with
          | nil => exact List.nil_infix
          | cons d word => exact absurd ((List.cons_prefix_cons.mp h).1 ▸ List.mem_cons_self) hfeed
        rw [withReturns_lineFeed, List.infix_cons_iff, List.infix_cons_iff]
        tauto
      · rw [withReturns_cons hc, List.infix_cons_iff]

end Words

end Text

open Text

/-! ### Metadata -/

namespace Metadata

theorem foldl_linesFrom_withReturns (s before : List Char) (a : Scan) :
    (linesFrom (withReturns s) before).foldl Scan.readLine a =
      (linesFrom s before).foldl Scan.readLine a := by
  induction s generalizing before a with
  | nil => rfl
  | cons c rest ih =>
      by_cases hc : c = '\n'
      · subst hc
        have hend : endLine ('\r' :: before) = before.reverse := rfl
        rw [withReturns_lineFeed, linesFrom.eq_4 _ _ _ (by decide), linesFrom, linesFrom,
          List.foldl_cons, List.foldl_cons, hend, step_endLine Scan.readLine_concat_return, ih]
      · rw [withReturns_cons hc, linesFrom.eq_4 _ _ _ hc, linesFrom.eq_4 _ _ _ hc, ih]

theorem ofText_withReturns (block : List Char) : ofText (withReturns block) = ofText block := by
  rw [ofText, ofText, lines, lines, foldl_linesFrom_withReturns]

/-- A line that does not count may stand between any two lines. -/
theorem ofText_insert_line {line : List Char} (hfeed : '\n' ∉ line) (hidle : isContent line = false)
    (before after : List Char) :
    ofText (before ++ '\n' :: (line ++ '\n' :: after)) = ofText (before ++ '\n' :: after) := by
  rw [ofText, ofText]
  simp only [foldl_lines_append_lineFeed Scan.readLine_empty Scan.readLine_concat_return,
    foldl_lines_of_not_mem Scan.readLine_empty hfeed, Scan.readLine_of_not_content hidle]

section Blanks

variable {blanks : List Char} (hblanks : ∀ c ∈ blanks, isBlank c = true)

include hblanks

theorem Scan.readLine_append_blanks (s : Scan) (line : List Char) :
    s.readLine (line ++ blanks) = s.readLine line := by
  induction blanks generalizing line with
  | nil => rw [List.append_nil]
  | cons c blanks ih =>
      rw [← List.singleton_append, ← List.append_assoc,
        ih fun d hd => hblanks d (List.mem_cons_of_mem _ hd),
        readLine_concat_of_blank (hblanks c List.mem_cons_self)]

theorem foldl_lines_append_blanks (hfeed : '\n' ∉ blanks) (s : List Char) (a : Scan) :
    (lines (s ++ blanks)).foldl Scan.readLine a = (lines s).foldl Scan.readLine a := by
  have hfrom : ∀ (s before : List Char) (a : Scan),
      (linesFrom (s ++ blanks) before).foldl Scan.readLine a =
          (linesFrom s before).foldl Scan.readLine a := by
    intro s
    induction s with
    | nil =>
        intro before a
        have hlast := linesFrom_append hfeed [] before
        rw [List.append_nil] at hlast
        rw [List.nil_append, hlast, foldl_linesFrom_nil Scan.readLine_empty,
          foldl_linesFrom_nil Scan.readLine_empty, List.reverse_append, List.reverse_reverse,
          Scan.readLine_append_blanks hblanks]
    | cons c rest ih =>
        intro before a
        rw [List.cons_append]
        by_cases hc : c = '\n'
        · rw [hc, linesFrom, linesFrom, List.foldl_cons, List.foldl_cons, ih]
        · rw [linesFrom.eq_4 _ _ _ hc, linesFrom.eq_4 _ _ _ hc, ih]
  exact hfrom s [] a

/-- Blanks may be put at the end of any line, also before blanks that stand there already. -/
theorem ofText_insert_blanks (hfeed : '\n' ∉ blanks) {after : List Char}
    (hafter : ∀ c ∈ firstLine after, isBlank c = true) (before : List Char) :
    ofText (before ++ (blanks ++ after)) = ofText (before ++ after) := by
  have hfirst : '\n' ∉ firstLine after := fun hmem => by simpa using List.mem_takeWhile_imp hmem
  have hboth : ∀ c ∈ blanks ++ firstLine after, isBlank c = true :=
    fun c hc => (List.mem_append.mp hc).elim (hblanks c) (hafter c)
  have hsame : ∀ a : Scan, (lines (before ++ (blanks ++ firstLine after))).foldl Scan.readLine a =
      (lines (before ++ firstLine after)).foldl Scan.readLine a := by
    intro a
    rw [foldl_lines_append_blanks hboth (by simp [hfeed, hfirst]),
      foldl_lines_append_blanks hafter hfirst]
  have hsplit : firstLine after ++ after.dropWhile (· != '\n') = after :=
    List.takeWhile_append_dropWhile
  rw [← hsplit, ofText, ofText]
  cases hrest : after.dropWhile (· != '\n') with
  | nil => rw [List.append_nil, hsame]
  | cons c rest =>
      have hc : c = '\n' := by
        have hhead := List.head?_dropWhile_not (· != '\n') after
        rw [hrest] at hhead
        simpa using hhead
      have hlong : before ++ (blanks ++ (firstLine after ++ '\n' :: rest)) =
          before ++ (blanks ++ firstLine after) ++ '\n' :: rest := by simp
      have hshort : before ++ (firstLine after ++ '\n' :: rest) =
          before ++ firstLine after ++ '\n' :: rest := by simp
      rw [hc, hlong, hshort]
      simp only [foldl_lines_append_lineFeed Scan.readLine_empty Scan.readLine_concat_return, hsame]

end Blanks

end Metadata

/-! ### Documents -/

namespace Document

/-- The text with a carriage return before every line feed. -/
def withCarriageReturns (s : String) : String :=
  String.ofList (withReturns s.toList)

theorem undelimited_withReturns {s : List Char} (h : Undelimited s) : Undelimited (withReturns s) :=
  fun hdelimiter => h ((isInfix_withReturns_iff (by decide) (by decide)).mp hdelimiter)

/-- Carriage returns before the line feeds neither make a delimiter nor part one. -/
theorem split?_withReturns (content : List Char) :
    split? (withReturns content) =
      (split? content).map fun parts => (withReturns parts.1, withReturns parts.2) := by
  have hdelimiter : withReturns delimiter = delimiter := rfl
  cases hsplit : split? content with
  | some parts =>
      obtain ⟨block, body⟩ := parts
      obtain ⟨rfl, hblock⟩ := split?_eq_some_iff.mp hsplit
      have hdashes : withReturns (block ++ delimiter.dropLast) =
          withReturns block ++ delimiter.dropLast :=
        withReturns_append _ _
      refine split?_eq_some_iff.mpr ⟨?_, hdashes ▸ undelimited_withReturns hblock⟩
      simp only [withReturns_append, hdelimiter]
  | none =>
      rw [Option.map_none, ← Option.not_isSome_iff_eq_none]
      intro hsome
      obtain ⟨⟨block, body⟩, hparts⟩ := Option.isSome_iff_exists.mp hsome
      obtain ⟨hwhole, _⟩ := split?_eq_some_iff.mp hparts
      have hopens : delimiter <+: content :=
        (isPrefix_withReturns_iff (by decide) (by decide)).mp (hwhole ▸ List.prefix_append _ _)
      obtain ⟨rest, rfl⟩ := hopens
      rw [withReturns_append, hdelimiter] at hwhole
      have hcloses : delimiter <:+: rest := by
        rw [← isInfix_withReturns_iff (by decide) (by decide), List.append_cancel_left hwhole]
        exact List.infix_append block delimiter body
      obtain ⟨a, b, rfl⟩ := hcloses
      have hagain :=
        split?_isSome_iff.mpr ⟨a, b, (by simp : delimiter ++ (a ++ delimiter ++ b) = _)⟩
      rw [hsplit] at hagain
      exact absurd hagain (by simp)

/-- The text of a document with the given block and body. -/
def delimited (block body : List Char) : String :=
  String.ofList (delimiter ++ block ++ delimiter ++ body)

theorem isCut_delimited {block : List Char} (hblock : Undelimited (block ++ delimiter.dropLast))
    (body : List Char) : IsCut (delimited block body).toList block body :=
  .of_split? (split?_eq_some_iff.mpr ⟨by simp [delimited], hblock⟩)

theorem IsCut.undelimited {content block body : List Char} (h : IsCut content block body) :
    Undelimited (block ++ delimiter.dropLast) :=
  (split?_eq_some_iff.mp h.split?_eq).2

/-- Lines that say nothing: blank ones, and comments in which no delimiter stands. -/
def IsIdle (line : List Char) : Prop :=
  (∀ c ∈ line, isBlank c = true) ∨ (trim line).head? = some '#' ∧ Undelimited line

theorem trim_eq_nil {line : List Char} (h : ∀ c ∈ line, isBlank c = true) : trim line = [] := by
  rw [trim, trimStart, List.dropWhile_eq_nil_iff.mpr h]
  rfl

theorem IsIdle.isContent_eq_false {line : List Char} (h : IsIdle line) :
    Metadata.isContent line = false := by
  rw [Metadata.isContent.eq_def]
  rcases h with hblank | ⟨hhash, _⟩
  · rw [trim_eq_nil hblank]
  · cases hline : trim line with
    | nil => rfl
    | cons c rest =>
        rw [hline] at hhash
        simp [Option.some.inj hhash]

theorem undelimited_of_blank {blanks : List Char} (hblanks : ∀ c ∈ blanks, isBlank c = true) :
    Undelimited blanks := by
  intro h
  exact absurd (hblanks '-' (h.subset (by decide))) (by decide)

theorem IsIdle.undelimited {line : List Char} (h : IsIdle line) : Undelimited line :=
  h.elim undelimited_of_blank And.right

/-- Two lines are parted by more than one line feed as they were by one. -/
theorem Undelimited.insert_line {before line after : List Char} (hline : Undelimited line)
    (h : Undelimited (before ++ '\n' :: after)) :
    Undelimited (before ++ '\n' :: (line ++ '\n' :: after)) := by
  have hbefore : Undelimited before := h.of_isInfix (List.prefix_append _ _).isInfix
  have hafter : Undelimited after :=
    h.of_isInfix ((List.suffix_cons _ _).trans (List.suffix_append _ _)).isInfix
  exact hbefore.append_cons (by decide) (hline.append_cons (by decide) hafter)

theorem not_mem_delimiter_of_blank {c : Char} (hc : isBlank c = true) : c ∉ delimiter := by
  intro hmem
  have hdash : c = '-' := by simpa [delimiter] using hmem
  exact absurd (hdash ▸ hc) (by decide)

theorem Undelimited.blanks_append {blanks after : List Char}
    (hblanks : ∀ c ∈ blanks, isBlank c = true) (hafter : Undelimited after) :
    Undelimited (blanks ++ after) := by
  induction blanks with
  | nil => exact hafter
  | cons c blanks ih =>
      exact (ih fun d hd => hblanks d (List.mem_cons_of_mem _ hd)).cons
        (not_mem_delimiter_of_blank (hblanks c List.mem_cons_self))

theorem Undelimited.insert_blanks {before blanks after : List Char}
    (hblanks : ∀ c ∈ blanks, isBlank c = true) (h : Undelimited (before ++ after)) :
    Undelimited (before ++ (blanks ++ after)) := by
  cases blanks with
  | nil => exact h
  | cons c blanks =>
      have hbefore : Undelimited before := h.of_isInfix (List.prefix_append _ _).isInfix
      have hafter : Undelimited after := h.of_isInfix (List.suffix_append _ _).isInfix
      exact hbefore.append_cons (not_mem_delimiter_of_blank (hblanks c List.mem_cons_self))
        (hafter.blanks_append fun d hd => hblanks d (List.mem_cons_of_mem _ hd))

end Document

/-! ### Rules -/

namespace Rule

open Document

theorem ofMetadata_withCarriageReturns (m : Metadata) (body : String) (source : Option String) :
    ofMetadata m (withCarriageReturns body) source =
      (ofMetadata m body source).map fun r =>
        { r with message := withCarriageReturns r.message } := by
  rw [ofMetadata, ofMetadata]
  split_ifs with hempty
  · rfl
  · simp only [Except.map, withCarriageReturns, String.toList_ofList, trim_withReturns]

/-- A document whose lines end with carriage returns and line feeds holds the rule of the document
whose lines end with line feeds, but for the ends of the lines in its message. -/
theorem ofText_withCarriageReturns (content : String) (source : Option String) :
    ofText (withCarriageReturns content) source =
      (ofText content source).map fun r => { r with message := withCarriageReturns r.message } := by
  have hsplit := split?_withReturns content.toList
  rw [ofText, ofText, Document.ofText, Document.ofText, withCarriageReturns, String.toList_ofList,
    hsplit]
  cases split? content.toList with
  | none => exact ofMetadata_withCarriageReturns Dictionary.empty content source
  | some parts =>
      obtain ⟨block, body⟩ := parts
      have hbody : String.ofList (trim (withReturns body)) =
          withCarriageReturns (String.ofList (trim body)) := by
        rw [withCarriageReturns, String.toList_ofList, trim_withReturns]
      simp only [Option.map_some, Metadata.ofText_withReturns, hbody]
      exact ofMetadata_withCarriageReturns _ _ source

theorem ofText_delimited {content : String} {block block' body : List Char}
    (hcut : IsCut content.toList block body) (hblock' : Undelimited (block' ++ delimiter.dropLast))
    (hsame : Metadata.ofText block' = Metadata.ofText block) (source : Option String) :
    ofText (delimited block' body) source = ofText content source := by
  rw [ofText, ofText, (isCut_delimited hblock' body).ofText_eq, hcut.ofText_eq, hsame]

/-- How a document is spaced does not change its rule. With a carriage return before every line feed
it is accepted or refused as before, and the rule differs in the line ends of the message only. A
blank line or a comment between two header lines, and blanks at the end of a header line, change
nothing; the document is cut as before, so that any number of them can be put in one after the
other. -/
theorem ofText_spaced (content : String) (source : Option String) :
    ofText (withCarriageReturns content) source =
        (ofText content source).map (fun r => { r with message := withCarriageReturns r.message }) ∧
      (∀ before line after body, IsCut content.toList (before ++ '\n' :: after) body →
        '\n' ∉ line → IsIdle line →
        IsCut (delimited (before ++ '\n' :: (line ++ '\n' :: after)) body).toList
            (before ++ '\n' :: (line ++ '\n' :: after)) body ∧
          ofText (delimited (before ++ '\n' :: (line ++ '\n' :: after)) body) source =
            ofText content source) ∧
      ∀ before blanks after body, IsCut content.toList (before ++ after) body →
        (∀ c ∈ firstLine after, isBlank c = true) → '\n' ∉ blanks →
        (∀ c ∈ blanks, isBlank c = true) →
        IsCut (delimited (before ++ (blanks ++ after)) body).toList
          (before ++ (blanks ++ after)) body ∧
          ofText (delimited (before ++ (blanks ++ after)) body) source = ofText content source := by
  refine ⟨ofText_withCarriageReturns content source, ?_, ?_⟩
  · intro before line after body hcut hfeed hidle
    have hblock : Undelimited
        (before ++ '\n' :: (line ++ '\n' :: after) ++ delimiter.dropLast) := by
      have hold := hcut.undelimited
      rw [List.append_assoc, List.cons_append] at hold
      have hnew := hidle.undelimited.insert_line hold
      simpa using hnew
    exact ⟨isCut_delimited hblock body,
      ofText_delimited hcut hblock
        (Metadata.ofText_insert_line hfeed hidle.isContent_eq_false before after) source⟩
  · intro before blanks after body hcut hafter hfeed hblanks
    have hblock : Undelimited (before ++ (blanks ++ after) ++ delimiter.dropLast) := by
      have hold := hcut.undelimited
      rw [List.append_assoc] at hold
      have hnew := hold.insert_blanks hblanks
      simpa using hnew
    exact ⟨isCut_delimited hblock body,
      ofText_delimited hcut hblock
        (Metadata.ofText_insert_blanks hblanks hfeed hafter before) source⟩

/-- The first lines of a block, up to the end of the line that begins a map. -/
def mapStart : List Char := "\nconditions:\n  - field: command".toList

/-- The line with which the map goes on. A carriage return stands inside its value. -/
def mapRest : List Char := "    pattern: a\rb\n".toList

def mapMessage : List Char := "\r\n One\ntwo.\n".toList

/-- A document with a map over two lines, whose lines end in both ways. -/
def mapDocument : String :=
  "---\nconditions:\n  - field: command\r\n    pattern: a\rb\n---\r\n One\ntwo.\n"

/-- A comment that stands inside the map. -/
def mapComment : List Char := "\t# -- the map goes on".toList

/-- Blanks that are put before a carriage return and a line feed. -/
def mapBlanks : List Char := "\r \u2028".toList

theorem ofText_spaced_mapDocument :
    (IsCut mapDocument.toList (mapStart ++ ['\r'] ++ '\n' :: mapRest) mapMessage ∧
      '\n' ∉ mapComment ∧
        IsIdle mapComment ∧
        ofText (delimited (mapStart ++ ['\r'] ++ '\n' :: (mapComment ++ '\n' :: mapRest))
          mapMessage) none = ofText mapDocument none) ∧
      IsCut mapDocument.toList (mapStart ++ ('\r' :: '\n' :: mapRest)) mapMessage ∧
        (∀ c ∈ firstLine ('\r' :: '\n' :: mapRest), isBlank c = true) ∧ '\n' ∉ mapBlanks ∧
        (∀ c ∈ mapBlanks, isBlank c = true) ∧
        ofText (delimited (mapStart ++ (mapBlanks ++ '\r' :: '\n' :: mapRest)) mapMessage) none =
          ofText mapDocument none := by
  have hcut : IsCut mapDocument.toList (mapStart ++ ['\r'] ++ '\n' :: mapRest) mapMessage :=
    .of_split? (by decide)
  have hidle : IsIdle mapComment := Or.inr ⟨by decide, by decide⟩
  have hcut' : IsCut mapDocument.toList (mapStart ++ ('\r' :: '\n' :: mapRest)) mapMessage :=
    .of_split? (by decide)
  have hend : ∀ c ∈ firstLine ('\r' :: '\n' :: mapRest), isBlank c = true :=
    List.all_eq_true.mp (by decide)
  have hblanks : ∀ c ∈ mapBlanks, isBlank c = true := List.all_eq_true.mp (by decide)
  refine ⟨⟨hcut, by decide, hidle, ?_⟩, hcut', hend, by decide, hblanks, ?_⟩
  · exact ((ofText_spaced mapDocument none).2.1 _ _ _ _ hcut (by decide) hidle).2
  · exact ((ofText_spaced mapDocument none).2.2 _ _ _ _ hcut' hend (by decide) hblanks).2

end Rule

end RuleGate
