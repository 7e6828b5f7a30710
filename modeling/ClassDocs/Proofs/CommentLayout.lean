import ClassDocs.Proofs.CommentSegmentation

/-!
# How a comment is laid out

The same content can be written as many blocks: lines can be indented, be set off from their markers
by any blanks and end in either way. Reading the content of a block undoes all of it. The content
that is read from any text can be laid out again, so the layout of a comment does not matter.

## Main definitions

* `Comment.Content`: the lines that a block can have.
* `Comment.Margin`, `Comment.LineEnd`: what may stand around a line.
* `Comment.Body`, `Comment.Layout`: the blocks in which some lines are written.
* `Comment.canonical`: one of these blocks.

## Main results

* `Comment.stripMarker_trim`: one line of a block.
* `Comment.Layout.contentLines_eq`: the content of a block is the lines written in it.
* `Comment.content_of_mem_contentLines`: what is read can be written.
* `Comment.contentLines_inverts_layout`: both of these, with what they mean for records.
-/

namespace ClassDocs

/-! ### Blocks -/

namespace Comment

open Text (Trimmed isBlankText)

variable {line block : String} {lines : List String}

/-- A line that a block can have: no line feed and no blanks at its ends. -/
structure Content (line : String) : Prop where
  trimmed : Trimmed line
  oneLine : '\n' ∉ line.toList

instance (line : String) : Decidable (Content line) :=
  decidable_of_iff (Trimmed line ∧ '\n' ∉ line.toList)
    ⟨fun h => ⟨h.1, h.2⟩, fun h => ⟨h.trimmed, h.oneLine⟩⟩

/-- Blanks within a line. -/
def Margin (text : String) : Prop :=
  isBlankText text = true ∧ '\n' ∉ text.toList

instance (text : String) : Decidable (Margin text) :=
  inferInstanceAs (Decidable (_ ∧ _))

/-- The two ways to end a line. -/
inductive LineEnd : String → Prop
  | feed : LineEnd "\n"
  | returnFeed : LineEnd "\r\n"

/-- The text of a block after its first line: the lines, each with a marker in front of it, and the
closing delimiter. Blanks set a line off from its marker, unless it is empty. -/
inductive Body : List String → String → Prop
  | close {indent : String} (hindent : Margin indent) : Body [] (indent ++ "*/")
  | line {indent gap line trail lineEnd rest : String} {lines : List String}
      (hindent : Margin indent) (hgap : Margin gap) (hset : line ≠ "" → gap ≠ "")
      (htrail : Margin trail) (hend : LineEnd lineEnd) (hrest : Body lines rest) :
      Body (line :: lines) (indent ++ "*" ++ gap ++ line ++ trail ++ lineEnd ++ rest)

/-- A block in which some lines are written, with any blanks around it. -/
inductive Layout : List String → String → Prop
  | block {front lineEnd body back : String} {lines : List String}
      (hfront : isBlankText front = true) (hend : LineEnd lineEnd) (hbody : Body lines body)
      (hback : isBlankText back = true) : Layout lines (front ++ "/**" ++ lineEnd ++ body ++ back)

/-- The block with one space before and after each marker. -/
def canonical (lines : List String) : String :=
  "/**\n" ++ lines.foldr (fun line rest => " * " ++ line ++ "\n" ++ rest) " */"

/-- A line ends in a line feed, after a blank or nothing. -/
theorem LineEnd.exists_margin {lineEnd : String} (h : LineEnd lineEnd) :
    ∃ trail, Margin trail ∧ lineEnd = trail ++ "\n" := by
  cases h with
  | feed => exact ⟨"", by decide, rfl⟩
  | returnFeed => exact ⟨"\r", by decide, rfl⟩

/-! ### Reading a block -/

/-- A marker is dropped with the blanks around what follows it, unless it closes the block. -/
theorem stripMarker_of_marker {rest : List Char} (h : line.toList = '*' :: rest)
    (hclose : line ≠ "*/") : stripMarker line = String.ofList (Text.trimChars rest) := by
  have hopen : line ≠ "/**" := by
    rintro rfl
    simp at h
  rw [stripMarker, if_neg (not_or.2 ⟨hopen, hclose⟩), h]
  rfl

/-- A blank after the marker keeps a line that starts with a slash from closing the block. -/
theorem marker_append_ne_close {gap : String} (hgap : isBlankText gap = true) (hne : gap ≠ "")
    (line : String) : "*" ++ gap ++ line ≠ "*/" := by
  intro heq
  obtain ⟨c, cs, hc⟩ := List.exists_cons_of_ne_nil (show gap.toList ≠ [] by simpa using hne)
  have hchars : ("*" ++ gap ++ line).toList = '*' :: c :: (cs ++ line.toList) := by simp [hc]
  rw [← String.toList_inj, hchars] at heq
  obtain rfl : c = '/' := (List.cons.inj (List.cons.inj heq).2).1
  exact absurd (Text.isBlankText_iff.1 hgap '/' (hc ▸ List.mem_cons_self)) (by decide)

/-- A line without its marker and the blanks around it. -/
theorem stripMarker_trim {indent gap trail : String} (hline : Trimmed line)
    (hindent : isBlankText indent = true) (hgap : isBlankText gap = true)
    (hset : line ≠ "" → gap ≠ "") (htrail : isBlankText trail = true) :
    stripMarker (Text.trim (indent ++ "*" ++ gap ++ line ++ trail)) = line := by
  rw [Text.trim_append_blank htrail]
  by_cases hempty : line = ""
  · rw [hempty, String.append_empty, Text.trim_append_blank hgap, Text.trim_blank_append hindent]
    decide
  · have htrimmed : Trimmed ("*" ++ gap ++ line) :=
      Text.trimmed_append (by decide) hline (by decide) hempty gap
    have htrim : Text.trim (indent ++ "*" ++ gap ++ line) = "*" ++ gap ++ line := by
      rw [String.append_assoc, String.append_assoc, Text.trim_blank_append hindent,
        ← String.append_assoc, htrimmed.trim_eq]
    have hchars : ("*" ++ gap ++ line).toList = '*' :: (gap.toList ++ line.toList) := by simp
    have hclose := marker_append_ne_close hgap (hset hempty) line
    rw [htrim, stripMarker_of_marker hchars hclose, ← String.toList_append]
    exact (Text.trim_blank_append hgap line).trans hline.trim_eq

/-- Each line of a body is read, and the closing one is empty. -/
theorem Body.map_lines {body : String} (h : Body lines body) (hlines : ∀ l ∈ lines, Content l) :
    (Text.lines body).map (fun line => stripMarker (Text.trim line)) = lines ++ [""] := by
  induction h with
  | @close indent hindent =>
    have honeLine : '\n' ∉ (indent ++ "*/").toList := by simpa using hindent.2
    rw [Text.lines_of_not_mem honeLine, List.map_singleton, Text.trim_blank_append hindent.1]
    decide
  | @line indent gap line trail lineEnd rest lines hindent hgap hset htrail hend _ ih =>
    obtain ⟨htrimmed, honeLine⟩ := hlines line List.mem_cons_self
    obtain ⟨final, hfinal, rfl⟩ := hend.exists_margin
    have hblank : isBlankText (trail ++ final) = true := by
      rw [Text.isBlankText_append, htrail.1, hfinal.1]
      rfl
    have hraw : '\n' ∉ (indent ++ "*" ++ gap ++ line ++ (trail ++ final)).toList := by
      simp [hindent.2, hgap.2, honeLine, htrail.2, hfinal.2]
    have hcut : indent ++ "*" ++ gap ++ line ++ trail ++ (final ++ "\n") ++ rest =
        indent ++ "*" ++ gap ++ line ++ (trail ++ final) ++ "\n" ++ rest := by
      simp only [String.append_assoc]
    rw [hcut, Text.lines_append_feed hraw, List.map_cons,
      stripMarker_trim htrimmed hindent.1 hgap.1 hset hblank,
      ih fun l hl => hlines l (List.mem_cons_of_mem _ hl), List.cons_append]

theorem Body.getLast?_eq {body : String} (h : Body lines body) :
    body.toList.getLast? = some '/' := by
  induction h with
  | close => simp [List.getLast?_append]
  | line _ _ _ _ _ _ ih => rw [String.toList_append, List.getLast?_append, ih, Option.some_or]

/-- A block starts and ends with a slash, so that trimming takes nothing off it. -/
theorem Body.trimmed_block {body : String} (h : Body lines body) (between : String) :
    Trimmed ("/**" ++ between ++ body) := by
  constructor
  · intro c hc
    obtain rfl : '/' = c := by simpa using hc
    decide
  · intro c hc
    rw [String.toList_append, List.getLast?_append, h.getLast?_eq] at hc
    obtain rfl : '/' = c := by simpa using hc
    decide

/-- The content of a block is the lines that are written in it. -/
theorem Layout.contentLines_eq (h : Layout lines block) (hlines : ∀ l ∈ lines, Content l) :
    contentLines block = lines := by
  cases h with
  | @block front lineEnd body back _ hfront hend hbody hback =>
    obtain ⟨final, hfinal, rfl⟩ := hend.exists_margin
    have hcut : front ++ "/**" ++ (final ++ "\n") ++ body ++ back =
        front ++ ("/**" ++ (final ++ "\n") ++ body) ++ back := by
      simp only [String.append_assoc]
    have hlines_eq : Text.lines ("/**" ++ (final ++ "\n") ++ body) =
        ("/**" ++ final) :: Text.lines body := by
      have honeLine : '\n' ∉ ("/**" ++ final).toList := by simpa using hfinal.2
      rw [← String.append_assoc, Text.lines_append_feed honeLine]
    rw [contentLines, hcut, Text.trim_append_blank hback, Text.trim_blank_append hfront,
      (hbody.trimmed_block _).trim_eq, hlines_eq]
    simp only [List.map_cons, hbody.map_lines hlines, List.tail_cons, List.dropLast_concat]

/-! ### Writing what was read -/

theorem layout_canonical (lines : List String) : Layout lines (canonical lines) := by
  have hspace : Margin " " := by decide
  have hnone : Margin "" := by decide
  have hbody : Body lines
      (lines.foldr (fun line rest => " * " ++ line ++ "\n" ++ rest) " */") := by
    induction lines with
    | nil => exact .close hspace
    | cons line lines ih =>
      have hline : Body (line :: lines) _ :=
        .line hspace hspace (fun _ => by decide) hnone .feed ih
      simpa [String.append_assoc] using hline
  have hblock : Layout lines ("" ++ "/**" ++ "\n" ++ _ ++ "") :=
    .block (by decide) .feed hbody (by decide)
  simpa [canonical, String.append_assoc] using hblock

/-- Taking off the marker leaves characters of the line only. -/
theorem mem_of_mem_stripMarker {c : Char} (h : c ∈ (stripMarker line).toList) :
    c ∈ line.toList := by
  rw [stripMarker] at h
  split_ifs at h
  · simp at h
  · split at h
    · rename_i rest hrest
      rw [String.toList_ofList] at h
      rw [hrest]
      exact List.mem_cons_of_mem _ (Text.mem_of_mem_trimChars h)
    · exact h

/-- The lines that are read from a text can be written in a block. -/
theorem content_of_mem_contentLines {comment : String} (h : line ∈ contentLines comment) :
    Content line where
  trimmed := trimmed_of_mem_contentLines h
  oneLine := by
    have hmem := List.mem_of_mem_tail (List.dropLast_subset _ h)
    obtain ⟨raw, hraw, rfl⟩ := List.mem_map.1 hmem
    intro hfeed
    have htrim := mem_of_mem_stripMarker hfeed
    rw [Text.trim, String.toList_ofList] at htrim
    exact Text.not_mem_of_mem_lines hraw (Text.mem_of_mem_trimChars htrim)

end Comment

/-- The record of a comment is determined by its content. -/
theorem Registry.parse_congr (reg : Registry) {comment other : String}
    (h : Comment.contentLines comment = Comment.contentLines other) :
    reg.parse comment = reg.parse other := by
  rw [parse, parse, h]

/-- A block in which the content of a comment is written has the record of the comment. -/
theorem Registry.parse_of_layout (reg : Registry) {comment block : String}
    (h : Comment.Layout (Comment.contentLines comment) block) :
    reg.parse block = reg.parse comment :=
  reg.parse_congr (h.contentLines_eq fun _ => Comment.content_of_mem_contentLines)

/-- Reading the content of a block gives back the lines that are written in it, however it is laid
out. The content of any text can be written in a block, and in the canonical one, as in any other,
it has the same record as in that text. -/
theorem Comment.contentLines_inverts_layout :
    (∀ lines block, (∀ line ∈ lines, Content line) → Layout lines block →
      contentLines block = lines) ∧
    (∀ comment, ∀ line ∈ contentLines comment, Content line) ∧
    ∀ (reg : Registry) (comment : String),
      reg.parse (canonical (contentLines comment)) = reg.parse comment ∧
      ∀ block, Layout (contentLines comment) block → reg.parse block = reg.parse comment :=
  ⟨fun _ _ hlines hlayout => hlayout.contentLines_eq hlines,
    fun _ _ => content_of_mem_contentLines,
    fun reg _ => ⟨reg.parse_of_layout (layout_canonical _), fun _ => reg.parse_of_layout⟩⟩

/-- A block with both line ends, blanks of several kinds and lines that look like delimiters. -/
theorem Comment.contentLines_inverts_layout_delimiters :
    let lines := ["*/", "", "/", "** a"]
    let block := "\n /**\r\n\t*\u00a0*/ \r\n*\n   * /\t\n*\t** a\r\n */ \n"
    (∀ line ∈ lines, Content line) ∧ Layout lines block ∧ contentLines block = lines := by
  intro lines block
  have hlines : ∀ line ∈ lines, Content line := by decide
  have hbody : Body lines "\t*\u00a0*/ \r\n*\n   * /\t\n*\t** a\r\n */" :=
    .line (by decide : Margin "\t") (by decide : Margin "\u00a0") (by decide)
      (by decide : Margin " ") .returnFeed <|
    .line (by decide : Margin "") (by decide : Margin "") (by decide)
      (by decide : Margin "") .feed <|
    .line (by decide : Margin "   ") (by decide : Margin " ") (by decide)
      (by decide : Margin "\t") .feed <|
    .line (by decide : Margin "") (by decide : Margin "\t") (by decide)
      (by decide : Margin "") .returnFeed <|
    .close (by decide : Margin " ")
  have hlayout : Layout lines block :=
    .block (by decide : Text.isBlankText "\n " = true) .returnFeed hbody
      (by decide : Text.isBlankText " \n" = true)
  exact ⟨hlines, hlayout, contentLines_inverts_layout.1 lines block hlines hlayout⟩

end ClassDocs
