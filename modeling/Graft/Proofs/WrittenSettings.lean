import Graft.Proofs.Documented
import Graft.Proofs.Overriding
import Graft.Proofs.WrittenValue

/-!
# Settings as they are written

A settings file gives each setting at most once, on a line of its own, in any
order (`Settings.Line`). The document of such lines is TOML and has one field
for each line (`parse?_document`), and so reading the settings back comes to
reading the fields one after another.

`ofDocument_document` says how that ends, to the words of the message. What is
wrong is told in three ranks: a mode beyond the numbers of 32 bits spoils the
reading and is shown on its line (`rangeMessage`); a mode that is only too large
is found afterwards, and told in octal; and a blank program last.
-/

namespace Graft

namespace Toml

variable {fields : Fields} {values : List Assignment} {key more rest : Text} {c : Char}

/-! ## Keys without quotes -/

theorem isBareKeyChar_ne (hc : isBareKeyChar c = true) (mark : Char)
    (hmark : isBareKeyChar mark = false) : c ≠ mark := by
  rintro rfl
  rw [hmark] at hc
  cases hc

theorem skipSpaces_cons (hc : isBareKeyChar c = true) (more : Text) :
    skipSpaces (c :: more) = c :: more := by
  have hspace : isSpace c = false := by
    simp [isSpace, isBareKeyChar_ne hc ' ' (by decide),
      isBareKeyChar_ne hc '\t' (by decide)]
  exact List.dropWhile_cons_of_neg (by simp [hspace])

/-- A key without quotes is read up to the space after it. -/
theorem keyPart?_bare (hkey : ∀ c ∈ key, isBareKeyChar c = true) (hne : key ≠ []) (more : Text) :
    keyPart? (key ++ ' ' :: more) = some (key, ' ' :: more) := by
  have htake : (key ++ ' ' :: more).takeWhile isBareKeyChar = key := by
    rw [List.takeWhile_append_of_pos hkey, List.takeWhile_cons_of_neg (by decide), List.append_nil]
  have hdrop : (key ++ ' ' :: more).dropWhile isBareKeyChar = ' ' :: more := by
    rw [List.dropWhile_append_of_pos hkey, List.dropWhile_cons_of_neg (by decide)]
  have hquote : shortString? (key ++ ' ' :: more) = none := by
    cases key with
    | nil => exact absurd rfl hne
    | cons c key =>
      have hc := hkey c List.mem_cons_self
      rw [List.cons_append, shortString?]
      · exact fun _ h => isBareKeyChar_ne hc _ (by decide) (List.cons.inj h).1
      · exact fun _ h => isBareKeyChar_ne hc _ (by decide) (List.cons.inj h).1
  simp [keyPart?, hquote, htake, hdrop, hne]

/-- A key without quotes or dots before an equals sign. -/
theorem keyPath?_bare (hkey : ∀ c ∈ key, isBareKeyChar c = true) (hne : key ≠ []) (count : Nat)
    (more : Text) :
    keyPath? (count + 1) (key ++ ' ' :: '=' :: more) =
      some (⟨[], ⟨key, ⟨(key ++ ' ' :: '=' :: more).length, (' ' :: '=' :: more).length⟩⟩⟩,
        '=' :: more) := by
  have hstart : skipSpaces (key ++ ' ' :: '=' :: more) = key ++ ' ' :: '=' :: more := by
    cases key with
    | nil => exact absurd rfl hne
    | cons c key => exact skipSpaces_cons (hkey c List.mem_cons_self) _
  rw [keyPath?, hstart, keyPart?_bare hkey hne]
  rfl

/-! ## Values under keys of their own -/

/-- The statement of an assignment. -/
def Assignment.statement (value : Assignment) : Statement :=
  .value value.1 value.2.1 value.2.2

/-- The field of an assignment whose key has one part. -/
def Assignment.field (value : Assignment) : Label × Node :=
  (⟨value.1.last.text, value.2.1⟩, value.2.2)

/-- Without a header all values stand before the first one. -/
theorem sections_values (values : List Assignment) :
    sections (values.map Assignment.statement) = (values, []) := by
  induction values with
  | nil => rfl
  | cons value values ih => simp [sections, Assignment.statement, ih]

/-- Values under different keys become one field each. -/
theorem fill_eq_append (hlead : ∀ value ∈ values, value.1.lead = [])
    (hkeys : (fields.keys ++ values.map fun value => value.1.last.text).Nodup) :
    fill values fields = some (fields ++ values.map Assignment.field) := by
  induction values generalizing fields with
  | nil => simp [fill]
  | cons value values ih =>
    obtain ⟨path, span, node⟩ := value
    have hpath : path.lead = [] := hlead _ List.mem_cons_self
    have hnew : fields.find? path.last.text = none := by
      rw [Fields.find?_eq_none_iff]
      intro hmem
      exact (List.nodup_append.1 hkeys).2.2 _ hmem _ List.mem_cons_self rfl
    have hdefine : fields.define path.last span node path.lead =
        some (fields.add path.last span node) := by
      rw [hpath, Fields.define, hnew]
      rfl
    have hkeys' : ((fields.add path.last span node).keys ++
        values.map fun value => value.1.last.text).Nodup := by
      rw [Fields.keys_add, List.append_assoc]
      exact hkeys
    have hrest := ih (fun value hvalue => hlead value (List.mem_cons_of_mem _ hvalue)) hkeys'
    have hfirst : fill ((path, span, node) :: values) fields =
        fields.define path.last span node path.lead >>= fill values := by
      rw [fill, List.foldlM_cons]
      rfl
    rw [hfirst, hdefine, Option.bind_eq_bind, Option.bind_some, hrest]
    simp [Fields.add, Assignment.field]

/-- A document of values under different keys. -/
theorem build_values (hlead : ∀ value ∈ values, value.1.lead = [])
    (hkeys : (values.map fun value => value.1.last.text).Nodup) :
    build (values.map Assignment.statement) = some (values.map Assignment.field) := by
  have hfill : fill values [] = some ([] ++ values.map Assignment.field) :=
    fill_eq_append hlead hkeys
  simp [build, sections_values, hfill]

/-! ## The place of a value -/

/-- A text up to the end of its line is the first line. -/
theorem lines_append_of_atLineEnd {text : Text} (h : '\n' ∉ text) (hrest : AtLineEnd rest) :
    ∃ others, Text.lines (text ++ rest) = text :: others := by
  obtain rfl | ⟨more, rfl⟩ := hrest.cases
  · exact ⟨[], by rw [List.append_nil]; exact List.splitOn_eq_singleton h⟩
  · exact ⟨Text.lines more, List.splitOn_append_cons_self_of_not_mem h more⟩

/-- What stands after the last line feed is the line so far. -/
theorem takeWhile_reverse_flatMap (before : List Text) {lead : Text} (hlead : '\n' ∉ lead) :
    (((before.flatMap fun text => text ++ ['\n']) ++ lead).reverse.takeWhile
      fun c => c != '\n') = lead.reverse := by
  have hall : ∀ c ∈ lead.reverse, (c != '\n') = true := by
    intro c hc
    rw [List.mem_reverse] at hc
    rw [bne_iff_ne]
    rintro rfl
    exact hlead hc
  rw [List.reverse_append, List.takeWhile_append_of_pos hall]
  rcases before.eq_nil_or_concat with rfl | ⟨earlier, text, rfl⟩
  · simp
  · simp

/-- A text of ASCII characters takes as many bytes. -/
theorem byteLength_of_ascii {content : Text} (h : ∀ c ∈ content, c.toNat < 0x80) :
    Text.byteLength content = content.length := by
  induction content with
  | nil => rfl
  | cons c content ih =>
    rw [List.forall_mem_cons] at h
    have hc : c.utf8Size = 1 := Char.utf8Size_eq_one_iff.2 (Nat.le_of_lt_succ h.1)
    rw [Text.byteLength_cons, hc, ih h.2, List.length_cons, Nat.add_comm]

/-- **A stretch within a line is shown on that line**, at the column where it
begins. -/
theorem excerpt_of_lines {before : List Text} (hbefore : ∀ text ∈ before, '\n' ∉ text)
    {lead marked : Text} (hlead : '\n' ∉ lead) (hmarked : '\n' ∉ marked)
    (hrest : AtLineEnd rest) :
    excerpt (before.flatMap (fun text => text ++ ['\n']) ++ (lead ++ (marked ++ rest)))
        ⟨(marked ++ rest).length, rest.length⟩ =
      ⟨before.length, lead.length, lead ++ marked,
        max 1 (min (Text.byteLength marked)
          (Text.byteLength (lead ++ marked) - lead.length))⟩ := by
  set front := before.flatMap fun text => text ++ ['\n'] with hfront
  have htake : (front ++ (lead ++ (marked ++ rest))).take
      ((front ++ (lead ++ (marked ++ rest))).length - (marked ++ rest).length) = front ++ lead := by
    have hlength : (front ++ (lead ++ (marked ++ rest))).length - (marked ++ rest).length =
        (front ++ lead).length := by
      simp only [List.length_append]
      omega
    rw [hlength, ← List.append_assoc, List.take_left]
  have hdrop : (front ++ (lead ++ (marked ++ rest))).drop (front ++ lead).length =
      marked ++ rest := by
    rw [← List.append_assoc, List.drop_left]
  have hmark : (marked ++ rest).take ((marked ++ rest).length - rest.length) = marked := by
    rw [List.length_append, Nat.add_sub_cancel, List.take_left]
  have hcount : (front ++ lead).count '\n' = before.length := by
    rw [List.count_append, hfront, Text.count_newline_flatMap hbefore,
      List.count_eq_zero_of_not_mem hlead, Nat.add_zero]
  have hcolumn := congrArg List.length (takeWhile_reverse_flatMap before hlead)
  rw [List.length_reverse] at hcolumn
  have hline : ((Text.lines (front ++ (lead ++ (marked ++ rest))))[before.length]?).getD [] =
      lead ++ marked := by
    have hno : '\n' ∉ lead ++ marked := by simp [hlead, hmarked]
    obtain ⟨others, hothers⟩ := lines_append_of_atLineEnd hno hrest
    rw [hfront, Text.lines_flatMap_append hbefore, ← List.append_assoc, hothers,
      List.getElem?_append_right (Nat.le_refl _), Nat.sub_self]
    rfl
  simp only [excerpt, htake, hdrop, hmark, hcount, hline]
  rw [hcolumn]

end Toml

namespace Settings

open Toml

/-- A line that gives one setting. A mode is a number of 64 bits; whether it is
one that can be used is for the reader to say. -/
inductive Line where
  | mode (value : Int64)
  | switch (value : Bool)
  | bin (content : Text)
deriving DecidableEq, Repr

/-- What settings can be written with in either way. -/
structure Style where
  /-- Hexadecimal digits are capital letters. -/
  capital : Bool
  /-- A line feed stands after the last line too. -/
  ended : Bool
deriving DecidableEq, Repr

namespace Line

/-- The key of a setting. -/
def key : Line → Text
  | mode _ => "file_mode".toList
  | switch _ => "atomic_writes".toList
  | bin _ => "scaffold_bin".toList

/-- The value of a setting as it is written. -/
def valueText (capital : Bool) : Line → Text
  | mode value => integerText value.toInt
  | switch value => switchText value
  | bin content => quoted capital content

/-- The value of a setting as it is read. -/
def node : Line → Node
  | mode value => .integer value.toInt
  | switch value => .boolean value
  | bin content => .string content

/-- What stands before the value on a line. -/
def lead (line : Line) : Text :=
  line.key ++ [' ', '=', ' ']

/-- The whole line. -/
def text (capital : Bool) (line : Line) : Text :=
  line.lead ++ line.valueText capital

end Line

namespace Style

/-- What stands between a line and the lines after it. -/
def lineEnd (style : Style) (rest : List Line) : Text :=
  if rest.isEmpty && !style.ended then [] else ['\n']

/-- The document of some lines. -/
def document (style : Style) : List Line → Text
  | [] => []
  | line :: rest => line.text style.capital ++ (style.lineEnd rest ++ style.document rest)

/-- What is left of the document after a line. -/
def after (style : Style) (rest : List Line) : Text :=
  style.lineEnd rest ++ style.document rest

/-- The stretch that the value of a line takes. -/
def span (style : Style) (line : Line) (rest : List Line) : Span :=
  ⟨(line.valueText style.capital ++ style.after rest).length, (style.after rest).length⟩

/-- The stretch that the key of a line takes. -/
def keySpan (style : Style) (line : Line) (rest : List Line) : Span :=
  ⟨(line.text style.capital ++ style.after rest).length,
    (' ' :: '=' :: ' ' :: line.valueText style.capital ++ style.after rest).length⟩

/-- What the lines are read as. -/
def assignments (style : Style) : List Line → List Assignment
  | [] => []
  | line :: rest =>
    (⟨[], ⟨line.key, style.keySpan line rest⟩⟩, style.span line rest, line.node) ::
      style.assignments rest

/-- The fields that the lines give. -/
def fields (style : Style) (lines : List Line) : Fields :=
  (style.assignments lines).map Assignment.field

end Style

variable {style : Style} {line : Line} {lines rest : List Line} {capital : Bool} {more : Text}

/-! ## One line -/

/-- The keys of the settings can be written without quotes. -/
theorem Line.bare_key (line : Line) : line.key.all isBareKeyChar = true ∧ line.key ≠ [] := by
  have hmode : "file_mode".toList.all isBareKeyChar = true ∧ "file_mode".toList ≠ [] := by decide
  have hswitch : "atomic_writes".toList.all isBareKeyChar = true ∧
      "atomic_writes".toList ≠ [] := by decide
  have hbin : "scaffold_bin".toList.all isBareKeyChar = true ∧
      "scaffold_bin".toList ≠ [] := by decide
  cases line with
  | mode _ => exact hmode
  | switch _ => exact hswitch
  | bin _ => exact hbin

theorem Line.isBareKeyChar_of_mem_key {c : Char} (h : c ∈ line.key) : isBareKeyChar c = true :=
  List.all_eq_true.1 line.bare_key.1 c h

/-- The value on a line is read as it was written. -/
theorem Line.value?_valueText (line : Line) (capital : Bool) (hmore : AtLineEnd more) :
    value? depthLimit (line.valueText capital ++ more) = some (line.node, more) := by
  cases line with
  | mode value =>
    exact value?_integerText (Int64.le_toInt value) (Int64.toInt_lt value) hmore
  | switch value => exact value?_switchText value
  | bin content => exact value?_quoted capital content hmore

/-- No space stands before a value but the one after the equals sign. -/
theorem Line.skipSpaces_valueText (line : Line) (capital : Bool) (more : Text) :
    skipSpaces (' ' :: (line.valueText capital ++ more)) = line.valueText capital ++ more := by
  have hcons : ∃ c text, line.valueText capital = c :: text ∧ isSpace c = false := by
    cases line with
    | mode value =>
      obtain ⟨c, digits, htext, hc⟩ := exists_integerText_eq_cons value.toInt
      refine ⟨c, digits, htext, ?_⟩
      rw [isSpace, Bool.or_eq_false_iff, beq_eq_false_iff_ne, beq_eq_false_iff_ne]
      constructor <;>
      · rintro rfl
        rcases hc with hc | hc <;> cases hc
    | switch value => cases value <;> exact ⟨_, _, rfl, by decide⟩
    | bin content => exact ⟨_, _, rfl, by decide⟩
  obtain ⟨c, text, htext, hc⟩ := hcons
  have hspace : isSpace ' ' = true := by decide
  rw [htext, skipSpaces, List.dropWhile_cons_of_pos hspace, List.cons_append,
    List.dropWhile_cons_of_neg (by simp [hc])]

theorem Style.atLineEnd_after (style : Style) (rest : List Line) :
    AtLineEnd (style.after rest) := by
  unfold Style.after Style.lineEnd
  cases rest with
  | nil => cases style.ended <;> simp [AtLineEnd, Style.document]
  | cons line rest => simp [AtLineEnd]

/-- Behind a line stand the others. -/
theorem Style.tail_after (style : Style) (rest : List Line) :
    (style.after rest).tail = style.document rest := by
  unfold Style.after Style.lineEnd
  cases rest with
  | nil => cases style.ended <;> rfl
  | cons line rest => rfl

theorem Style.document_cons (style : Style) (line : Line) (rest : List Line) :
    style.document (line :: rest) = line.text style.capital ++ style.after rest := rfl

/-- The first character of a line is one of its key. -/
theorem Style.exists_document_eq_cons (style : Style) (line : Line) (rest : List Line) :
    ∃ c more, style.document (line :: rest) = c :: more ∧ isBareKeyChar c = true := by
  obtain ⟨c, key, hkey⟩ := List.exists_cons_of_ne_nil line.bare_key.2
  refine ⟨c, key ++ [' ', '=', ' '] ++ line.valueText style.capital ++ style.after rest, ?_,
    line.isBareKeyChar_of_mem_key (by simp [hkey])⟩
  rw [Style.document_cons, Line.text, Line.lead, hkey]
  rfl

/-- **A line is read as an assignment**, up to its end. -/
theorem Style.assignment?_document (style : Style) (line : Line) (rest : List Line) :
    assignment? (value? depthLimit) (style.document (line :: rest)) =
      some ((⟨[], ⟨line.key, style.keySpan line rest⟩⟩, style.span line rest, line.node),
        style.after rest) := by
  have htext : style.document (line :: rest) =
      line.key ++ ' ' :: '=' :: (' ' :: line.valueText style.capital ++ style.after rest) := by
    rw [style.document_cons, Line.text, Line.lead, List.append_assoc, List.append_assoc]
    rfl
  have hpath : keyPath? depthLimit (style.document (line :: rest)) =
      some (⟨[], ⟨line.key, style.keySpan line rest⟩⟩,
        '=' :: (' ' :: line.valueText style.capital ++ style.after rest)) := by
    rw [htext, depthLimit, keyPath?_bare (fun c => Line.isBareKeyChar_of_mem_key) line.bare_key.2,
      ← htext]
    rfl
  have hvalue := line.value?_valueText style.capital (style.atLineEnd_after rest)
  have hspace := line.skipSpaces_valueText style.capital (style.after rest)
  simp [assignment?, hpath, skip?, hspace, hvalue, Style.span]

/-- A line is read as one statement, with the end of the line. -/
theorem Style.statement?_document (style : Style) (line : Line) (rest : List Line) :
    statement? (style.document (line :: rest)) =
      some (.value ⟨[], ⟨line.key, style.keySpan line rest⟩⟩ (style.span line rest) line.node,
        style.document rest) := by
  obtain ⟨c, more, hstart, hc⟩ := style.exists_document_eq_cons line rest
  have hread := style.assignment?_document line rest
  have hfinish := finishLine?_of_atLineEnd (style.atLineEnd_after rest)
  rw [style.tail_after] at hfinish
  rw [hstart] at hread ⊢
  rw [statement?]
  · simp [hread, hfinish]
  · exact fun _ h => isBareKeyChar_ne hc _ (by decide) (List.cons.inj h).1
  · exact fun _ h => isBareKeyChar_ne hc _ (by decide) (List.cons.inj h).1

theorem Style.statementsFrom?_document (style : Style) (lines : List Line) {fuel : Nat}
    (hfuel : (style.document lines).length < fuel) :
    statementsFrom? fuel (style.document lines) =
      some ((style.assignments lines).map Assignment.statement) := by
  induction lines generalizing fuel with
  | nil =>
    cases fuel with
    | zero => simp at hfuel
    | succ fuel => rfl
  | cons line rest ih =>
    cases fuel with
    | zero => simp at hfuel
    | succ fuel =>
      obtain ⟨c, more, hstart, hc⟩ := style.exists_document_eq_cons line rest
      have hread := style.statement?_document line rest
      have hshort : (style.document rest).length < fuel := by
        rw [style.document_cons, List.length_append, Style.after, List.length_append] at hfuel
        have hpos : 0 < (line.text style.capital).length := by
          rw [Line.text, Line.lead, List.length_append, List.length_append, List.length_cons]
          omega
        omega
      have hrest := ih hshort
      rw [hstart] at hread ⊢
      have hmark : (c == '#' || c == '\n' || c == '\r') = false := by
        simp [isBareKeyChar_ne hc '#' (by decide),
          isBareKeyChar_ne hc '\n' (by decide),
          isBareKeyChar_ne hc '\r' (by decide)]
      rw [statementsFrom?, skipSpaces_cons hc]
      simp [hmark, hread, hrest, Style.assignments, Assignment.statement]

/-! ## The fields of a document -/

theorem Style.statements?_document (style : Style) (lines : List Line) :
    statements? (style.document lines) =
      some ((style.assignments lines).map Assignment.statement) := by
  cases lines with
  | nil => rfl
  | cons line rest =>
    obtain ⟨c, more, hstart, hc⟩ := style.exists_document_eq_cons line rest
    have hread := style.statementsFrom?_document (line :: rest) (Nat.lt_succ_self _)
    have hmark : (c == byteOrderMark) = false := by
      simp [isBareKeyChar_ne hc byteOrderMark (by decide)]
    rw [hstart] at hread ⊢
    simpa [statements?, hmark] using hread

theorem Style.lead_assignments (style : Style) (lines : List Line) :
    ∀ value ∈ style.assignments lines, value.1.lead = [] := by
  induction lines with
  | nil => simp [Style.assignments]
  | cons line rest ih =>
    rw [Style.assignments, List.forall_mem_cons]
    exact ⟨rfl, ih⟩

theorem Style.keys_assignments (style : Style) (lines : List Line) :
    ((style.assignments lines).map fun value => value.1.last.text) = lines.map Line.key := by
  induction lines with
  | nil => rfl
  | cons line rest ih => rw [Style.assignments, List.map_cons, List.map_cons, ih]

theorem Style.keys_fields (style : Style) (lines : List Line) :
    (style.fields lines).keys = lines.map Line.key := by
  rw [← style.keys_assignments, Style.fields, Fields.keys, List.map_map]
  rfl

/-- **A document of lines has one field for each of them.** -/
theorem Style.parse?_document (style : Style) (hkeys : (lines.map Line.key).Nodup) :
    parse? (style.document lines) = some (style.fields lines) := by
  rw [parse?, style.statements?_document, Option.bind_eq_bind, Option.bind_some]
  refine build_values (style.lead_assignments lines) ?_
  rwa [style.keys_assignments]

theorem Style.fields_cons (style : Style) (line : Line) (rest : List Line) :
    style.fields (line :: rest) =
      (⟨line.key, style.span line rest⟩, line.node) :: style.fields rest := rfl

/-- What stands under the key of a line is its value. -/
theorem Style.find?_fields (style : Style) (hkeys : (lines.map Line.key).Nodup)
    (hline : line ∈ lines) :
    ∃ label, (style.fields lines).find? line.key = some (label, line.node) := by
  induction lines with
  | nil => cases hline
  | cons other rest ih =>
    rw [List.map_cons, List.nodup_cons] at hkeys
    rw [style.fields_cons]
    rcases List.mem_cons.1 hline with rfl | hrest
    · exact ⟨_, List.find?_cons_of_pos (by simp)⟩
    · have hne : other.key ≠ line.key := fun h => hkeys.1 (h ▸ List.mem_map_of_mem hrest)
      obtain ⟨label, hfound⟩ := ih hkeys.2 hrest
      exact ⟨label, (List.find?_cons_of_neg (by simp [hne])).trans hfound⟩

/-! ## What lines give -/

/-- A line's mode is a number of 32 bits, if it gives one. -/
def Line.InRange (line : Line) : Prop :=
  ∀ value, line = .mode value → 0 ≤ value.toInt ∧ value.toInt < modeBound

/-- The settings are those that the lines give, and the defaults elsewhere. -/
structure Gives (lines : List Line) (settings : Settings) : Prop where
  mode : ∀ value, .mode value ∈ lines → (settings.fileMode : Int) = value.toInt
  switch : ∀ value, .switch value ∈ lines → settings.atomicWrites = value
  bin : ∀ content, .bin content ∈ lines → settings.scaffoldBin = content
  noMode : (∀ value, .mode value ∉ lines) → settings.fileMode = default.fileMode
  noSwitch : (∀ value, .switch value ∉ lines) → settings.atomicWrites = default.atomicWrites
  noBin : (∀ content, .bin content ∉ lines) → settings.scaffoldBin = default.scaffoldBin

/-- A line whose mode is in range is taken up. -/
theorem Line.exists_readField (h : line.InRange) (settings : Settings) :
    ∃ settings', settings.readField line.key line.node = .ok settings' := by
  cases line with
  | mode value => exact ⟨_, if_pos (h value rfl)⟩
  | switch value => exact ⟨_, rfl⟩
  | bin content => exact ⟨_, rfl⟩

theorem Style.exists_readFields (style : Style) (h : ∀ line ∈ lines, line.InRange)
    (settings : Settings) :
    ∃ settings', readFields settings (style.fields lines) = .ok settings' := by
  induction lines generalizing settings with
  | nil => exact ⟨settings, rfl⟩
  | cons line rest ih =>
    rw [List.forall_mem_cons] at h
    obtain ⟨next, hnext⟩ := line.exists_readField h.1 settings
    obtain ⟨settings', hrest⟩ := ih h.2 next
    refine ⟨settings', ?_⟩
    rw [style.fields_cons, readFields, hnext]
    exact hrest

/-- A mode out of range stops the reading, if no other is given before it. -/
theorem Style.readFields_of_outOfRange (style : Style) {before : List Line} {value : Int64}
    (hbefore : ∀ line ∈ before, line.InRange) (hvalue : ¬ (Line.mode value).InRange)
    (settings : Settings) :
    readFields settings (style.fields (before ++ .mode value :: rest)) =
      .error (style.span (.mode value) rest, .outOfRange value.toInt .mode) := by
  induction before generalizing settings with
  | nil =>
    have hrange : ¬ (0 ≤ value.toInt ∧ value.toInt < modeBound) := fun h =>
      hvalue fun other hother => by cases hother; exact h
    have hfield : settings.readField (Line.mode value).key (Line.mode value).node =
        .error (.outOfRange value.toInt .mode) := if_neg hrange
    rw [List.nil_append, style.fields_cons, readFields, hfield]
  | cons line before ih =>
    rw [List.forall_mem_cons] at hbefore
    obtain ⟨next, hnext⟩ := line.exists_readField hbefore.1 settings
    rw [List.cons_append, style.fields_cons, readFields, hnext]
    exact ih hbefore.2 next

/-- No two settings have one key. -/
theorem keys_ne : "file_mode".toList ≠ "atomic_writes".toList ∧
    "file_mode".toList ≠ "scaffold_bin".toList ∧
      "atomic_writes".toList ≠ "scaffold_bin".toList := by decide

theorem Line.exists_eq_mode (h : line.key = "file_mode".toList) : ∃ value, line = .mode value := by
  cases line with
  | mode value => exact ⟨value, rfl⟩
  | switch _ => exact absurd h.symm keys_ne.1
  | bin _ => exact absurd h.symm keys_ne.2.1

theorem Line.exists_eq_switch (h : line.key = "atomic_writes".toList) :
    ∃ value, line = .switch value := by
  cases line with
  | mode _ => exact absurd h keys_ne.1
  | switch value => exact ⟨value, rfl⟩
  | bin _ => exact absurd h.symm keys_ne.2.2

theorem Line.exists_eq_bin (h : line.key = "scaffold_bin".toList) :
    ∃ content, line = .bin content := by
  cases line with
  | mode _ => exact absurd h keys_ne.2.1
  | switch _ => exact absurd h keys_ne.2.2
  | bin content => exact ⟨content, rfl⟩

section Fields

variable {α : Type} {value? : Node → Option α} {key : Text}

theorem Style.valueIn_fields (style : Style) (hkeys : (lines.map Line.key).Nodup)
    (hline : line ∈ lines) (hkey : line.key = key) (former : α) :
    valueIn (style.fields lines) key value? former = (value? line.node).getD former := by
  obtain ⟨label, hfound⟩ := style.find?_fields hkeys hline
  rw [valueIn, ← hkey, hfound]
  rfl

theorem Style.valueIn_fields_of_not_mem (style : Style) (hkey : ∀ line ∈ lines, line.key ≠ key)
    (former : α) : valueIn (style.fields lines) key value? former = former := by
  have hnone : (style.fields lines).find? key = none := by
    rw [Fields.find?_eq_none_iff, style.keys_fields, List.mem_map]
    rintro ⟨line, hline, h⟩
    exact hkey line hline h
  rw [valueIn, hnone]
  rfl

end Fields

/-- The settings that are read are those that the lines give. -/
theorem Style.gives_of_readFields (style : Style) (hkeys : (lines.map Line.key).Nodup)
    (hrange : ∀ line ∈ lines, line.InRange) {settings : Settings}
    (h : readFields default (style.fields lines) = .ok settings) : Gives lines settings := by
  have hdistinct : (style.fields lines).Distinct := by
    unfold Fields.Distinct
    rwa [style.keys_fields]
  have hmode := followsField_fileMode.eq_valueIn hdistinct h
  have hswitch := followsField_atomicWrites.eq_valueIn hdistinct h
  have hbin := followsField_scaffoldBin.eq_valueIn hdistinct h
  refine ⟨fun value hline => ?_, fun value hline => ?_, fun content hline => ?_,
    fun hno => ?_, fun hno => ?_, fun hno => ?_⟩
  · have hvalue := hrange _ hline value rfl
    have hread : mode? (Line.mode value).node = some value.toInt.toNat := if_pos hvalue
    rw [hmode.trans (style.valueIn_fields hkeys hline rfl _), hread]
    exact Int.toNat_of_nonneg hvalue.1
  · exact hswitch.trans (style.valueIn_fields hkeys hline rfl _)
  · exact hbin.trans (style.valueIn_fields hkeys hline rfl _)
  · rw [hmode, style.valueIn_fields_of_not_mem fun line hline hkey => ?_]
    obtain ⟨value, rfl⟩ := Line.exists_eq_mode hkey
    exact hno value hline
  · rw [hswitch, style.valueIn_fields_of_not_mem fun line hline hkey => ?_]
    obtain ⟨value, rfl⟩ := Line.exists_eq_switch hkey
    exact hno value hline
  · rw [hbin, style.valueIn_fields_of_not_mem fun line hline hkey => ?_]
    obtain ⟨content, rfl⟩ := Line.exists_eq_bin hkey
    exact hno content hline

/-! ## The place of a line -/

theorem Line.newline_not_mem_lead (line : Line) : '\n' ∉ line.lead := by
  have hkey : '\n' ∉ line.key := fun h => by cases line.isBareKeyChar_of_mem_key h
  simp [Line.lead, hkey]

/-- No line ends before its end. -/
theorem Line.newline_not_mem_text (line : Line) (capital : Bool) : '\n' ∉ line.text capital := by
  have hvalue : '\n' ∉ line.valueText capital := by
    cases line with
    | mode value => exact newline_not_mem_integerText value.toInt
    | switch value => exact newline_not_mem_switchText value
    | bin content => exact newline_not_mem_quoted capital content
  simp [Line.text, line.newline_not_mem_lead, hvalue]

/-- The lines before a line stand before it, each with a line feed. -/
theorem Style.document_append (style : Style) (before : List Line) (line : Line)
    (rest : List Line) :
    style.document (before ++ line :: rest) =
      (before.map (Line.text style.capital)).flatMap (fun text => text ++ ['\n']) ++
        (line.text style.capital ++ style.after rest) := by
  induction before with
  | nil => rfl
  | cons other before ih =>
    rw [List.cons_append, style.document_cons, Style.after, ih]
    simp [Style.lineEnd]

/-- The value of a mode is shown on its line, after its key. -/
theorem Style.excerpt_mode (style : Style) (before : List Line) (value : Int64)
    (rest : List Line) :
    excerpt (style.document (before ++ .mode value :: rest)) (style.span (.mode value) rest) =
      ⟨before.length, 12, (Line.mode value).text style.capital,
        (integerText value.toInt).length⟩ := by
  have hbefore : ∀ text ∈ before.map (Line.text style.capital), '\n' ∉ text := by
    rw [List.forall_mem_map]
    exact fun line _ => line.newline_not_mem_text style.capital
  have hexcerpt := excerpt_of_lines hbefore (Line.mode value).newline_not_mem_lead
    (newline_not_mem_integerText value.toInt) (style.atLineEnd_after rest)
  have hdigits : Text.byteLength (integerText value.toInt) = (integerText value.toInt).length := by
    refine byteLength_of_ascii fun c hc => ?_
    rcases mem_integerText hc with rfl | hc
    · decide
    · exact Nat.lt_of_le_of_lt (Char.isDigit_iff_toNat.1 hc).2 (by decide)
  have hpos : 0 < (integerText value.toInt).length := by
    obtain ⟨c, digits, htext, -⟩ := exists_integerText_eq_cons value.toInt
    simp [htext]
  have hlead : (Line.mode 0).lead.length = 12 ∧ Text.byteLength (Line.mode 0).lead = 12 := by
    decide +kernel
  have hlength : (Line.mode value).lead.length = 12 := hlead.1
  have hwidth : Text.byteLength ((Line.mode value).lead ++ integerText value.toInt) =
      12 + (integerText value.toInt).length := by
    rw [← hdigits, Text.byteLength, Text.encode_append, List.length_append]
    exact congrArg (· + _) hlead.2
  rw [style.document_append, Line.text, List.append_assoc]
  rw [List.length_map, hdigits, hwidth, hlength, Nat.add_sub_cancel_left, Nat.min_self,
    Nat.max_eq_right hpos] at hexcerpt
  exact hexcerpt

/-- What is said of a mode that is no number of 32 bits: the line it stands on,
with so many lines before it, carets under the value, and what is wrong. -/
def rangeMessage (before : Nat) (line value : Text) : Text :=
  let number := Nat.toDigits 10 (before + 1)
  let gutter := List.replicate (number.length + 1) ' ' ++ ['|']
  "TOML parse error".toList ++ " at line ".toList ++ number ++ ", column ".toList ++
    "13".toList ++ ['\n'] ++
    gutter ++ ['\n'] ++
    number ++ " | ".toList ++ line ++ ['\n'] ++
    gutter ++ List.replicate 13 ' ' ++ List.replicate value.length '^' ++ ['\n'] ++
    "invalid value: integer `".toList ++ value ++ "`, expected ".toList ++ "u32".toList ++ ['\n']

theorem Style.text_of_outOfRange (style : Style) (before : List Line) (value : Int64)
    (rest : List Line) :
    (Problem.document (.unsuitable (style.document (before ++ .mode value :: rest))
        (style.span (.mode value) rest) (.outOfRange value.toInt .mode))).text =
      rangeMessage before.length ((Line.mode value).text style.capital)
        (integerText value.toInt) := by
  have hcolumn : Nat.toDigits 10 13 = "13".toList := by decide
  unfold Problem.text Fault.text rangeMessage
  simp only [style.excerpt_mode]
  unfold Excerpt.text Reason.text Expected.text
  simp only [hcolumn, Nat.reduceAdd, List.append_assoc]

/-! ## Reading the settings back -/

/-- What the lines give can be used: a mode that is not too large, and a program
that is no blank. -/
structure Suit (lines : List Line) : Prop where
  mode : ∀ value, .mode value ∈ lines → 0 ≤ value.toInt ∧ value.toInt ≤ (maxMode : Int)
  bin : ∀ content, .bin content ∈ lines → Text.isAllBlank content = false

namespace Gives

variable {settings : Settings}

/-- The default is not too large. -/
theorem fileMode_le_iff (h : Gives lines settings) :
    settings.fileMode ≤ maxMode ↔ ∀ value, .mode value ∈ lines → value.toInt ≤ (maxMode : Int) := by
  constructor
  · intro hle value hline
    rw [← h.mode value hline]
    exact Int.ofNat_le.2 hle
  · intro hle
    by_cases hno : ∀ value, .mode value ∉ lines
    · rw [h.noMode hno]
      decide
    · push Not at hno
      obtain ⟨value, hline⟩ := hno
      have hvalue := hle value hline
      rw [← h.mode value hline] at hvalue
      exact Int.ofNat_le.1 hvalue

/-- The default is no blank. -/
theorem isAllBlank_iff (h : Gives lines settings) :
    Text.isAllBlank settings.scaffoldBin = false ↔
      ∀ content, .bin content ∈ lines → Text.isAllBlank content = false := by
  constructor
  · intro hbin content hline
    rwa [h.bin content hline] at hbin
  · intro hbin
    by_cases hno : ∀ content, .bin content ∉ lines
    · rw [h.noBin hno]
      decide +kernel
    · push Not at hno
      obtain ⟨content, hline⟩ := hno
      rw [h.bin content hline]
      exact hbin content hline

end Gives

/-- Lines of different settings give one mode. -/
theorem Line.mode_unique (hkeys : (lines.map Line.key).Nodup) {value other : Int64}
    (hline : .mode value ∈ lines) (hother : .mode other ∈ lines) : other = value :=
  Line.mode.inj (List.inj_on_of_nodup_map hkeys hother hline rfl)

theorem Suit.inRange (h : Suit lines) : ∀ line ∈ lines, line.InRange := by
  rintro line hline value rfl
  obtain ⟨hnonneg, hle⟩ := h.mode value hline
  exact ⟨hnonneg, Int.lt_of_le_of_lt hle (by decide)⟩

/-- Where every mode is in range, reading comes to the check of what the lines
give. -/
theorem Style.exists_ofDocument_eq_check (style : Style) (hkeys : (lines.map Line.key).Nodup)
    (hrange : ∀ line ∈ lines, line.InRange) :
    ∃ settings, Gives lines settings ∧
      ofDocument (style.document lines) = settings.check.map fun _ => settings := by
  obtain ⟨settings, hread⟩ := style.exists_readFields hrange default
  refine ⟨settings, style.gives_of_readFields hkeys hrange hread, ?_⟩
  unfold ofDocument
  rw [style.parse?_document hkeys]
  simp only [hread]
  cases settings.check with
  | error problem => rfl
  | ok _ => rfl

/-- A mode out of range is reported, whatever else is wrong. -/
theorem Style.ofDocument_of_outOfRange (style : Style) {before : List Line} {value : Int64}
    (hkeys : ((before ++ .mode value :: rest).map Line.key).Nodup)
    (hvalue : ¬ (Line.mode value).InRange) :
    ofDocument (style.document (before ++ .mode value :: rest)) =
      .error (.document (.unsuitable (style.document (before ++ .mode value :: rest))
        (style.span (.mode value) rest) (.outOfRange value.toInt .mode))) := by
  have hbefore : ∀ line ∈ before, line.InRange := by
    rintro line hline other rfl
    -- a second mode would stand under the same key
    rw [List.map_append, List.nodup_append] at hkeys
    exact absurd rfl (hkeys.2.2 _ (List.mem_map_of_mem hline) _ List.mem_cons_self)
  unfold ofDocument
  rw [style.parse?_document hkeys]
  simp only [style.readFields_of_outOfRange hbefore hvalue default]

/-- Only lines whose modes are in range are read without fault, and then they
give the settings. -/
theorem Style.gives_of_ofDocument (style : Style) (hkeys : (lines.map Line.key).Nodup)
    {settings : Settings} (h : ofDocument (style.document lines) = .ok settings) :
    (∀ line ∈ lines, line.InRange) ∧ Gives lines settings ∧ settings.check = .ok () := by
  have hrange : ∀ line ∈ lines, line.InRange := by
    intro line hline value heq
    subst heq
    by_contra hvalue
    obtain ⟨before, rest, rfl⟩ := List.append_of_mem hline
    have herror := style.ofDocument_of_outOfRange hkeys fun h => hvalue (h value rfl)
    cases h.symm.trans herror
  obtain ⟨given, hgives, heq⟩ := style.exists_ofDocument_eq_check hkeys hrange
  rw [h] at heq
  cases hcheck : given.check with
  | error problem =>
    rw [hcheck] at heq
    cases heq
  | ok _ =>
    rw [hcheck] at heq
    obtain rfl := Except.ok.inj heq
    exact ⟨hrange, hgives, hcheck⟩

/-- Lines are read without fault exactly if what they give can be used. -/
theorem Style.exists_ofDocument_iff (style : Style) (hkeys : (lines.map Line.key).Nodup) :
    (∃ settings, ofDocument (style.document lines) = .ok settings) ↔ Suit lines := by
  constructor
  · rintro ⟨settings, h⟩
    obtain ⟨hrange, hgives, hcheck⟩ := style.gives_of_ofDocument hkeys h
    obtain ⟨hle, hbin⟩ := check_eq_ok_iff.1 hcheck
    rw [Ne, Text.trim_eq_nil_iff, Bool.not_eq_true, hgives.isAllBlank_iff] at hbin
    have hmode := hgives.fileMode_le_iff.1 hle
    exact ⟨fun value hline => ⟨(hrange _ hline value rfl).1, hmode value hline⟩, hbin⟩
  · intro hsuit
    obtain ⟨settings, hgives, heq⟩ := style.exists_ofDocument_eq_check hkeys hsuit.inRange
    have hle := hgives.fileMode_le_iff.2 fun value hline => (hsuit.mode value hline).2
    have hbin : ¬ Text.trim settings.scaffoldBin = [] := by
      rw [Text.trim_eq_nil_iff, hgives.isAllBlank_iff.2 hsuit.bin]
      decide
    rw [check_eq_ok_iff.2 ⟨hle, hbin⟩] at heq
    exact ⟨settings, heq⟩

/-- A mode in range that is too large is reported, whatever the program is. -/
theorem Style.ofDocument_of_tooLarge (style : Style) (hkeys : (lines.map Line.key).Nodup)
    {value : Int64} (hline : .mode value ∈ lines) (hlarge : (maxMode : Int) < value.toInt)
    (hbound : value.toInt < modeBound) :
    ofDocument (style.document lines) = .error (.modeTooLarge value.toInt.toNat) := by
  have hrange : ∀ line ∈ lines, line.InRange := by
    rintro line hother other rfl
    obtain rfl := Line.mode_unique hkeys hline hother
    exact ⟨Int.le_trans (by decide) (Int.le_of_lt hlarge), hbound⟩
  obtain ⟨settings, hgives, heq⟩ := style.exists_ofDocument_eq_check hkeys hrange
  have hmode := hgives.mode value hline
  have hmore : maxMode < settings.fileMode := by
    rw [← hmode] at hlarge
    exact Int.ofNat_lt.1 hlarge
  have hcheck : settings.check = .error (.modeTooLarge settings.fileMode) := if_pos hmore
  rw [heq, hcheck, ← hmode]
  rfl

/-- A blank program is reported where nothing is wrong with the mode. -/
theorem Style.ofDocument_of_blank (style : Style) (hkeys : (lines.map Line.key).Nodup)
    (hmode : ∀ value, .mode value ∈ lines → 0 ≤ value.toInt ∧ value.toInt ≤ (maxMode : Int))
    {content : Text} (hline : .bin content ∈ lines) (hblank : Text.isAllBlank content = true) :
    ofDocument (style.document lines) = .error .blankBin := by
  have hrange : ∀ line ∈ lines, line.InRange := by
    rintro line hother other rfl
    exact ⟨(hmode other hother).1, Int.lt_of_le_of_lt (hmode other hother).2 (by decide)⟩
  obtain ⟨settings, hgives, heq⟩ := style.exists_ofDocument_eq_check hkeys hrange
  have hle := hgives.fileMode_le_iff.2 fun value hline => (hmode value hline).2
  rw [← hgives.bin content hline] at hblank
  have hcheck : settings.check = .error .blankBin := by
    rw [check, if_neg (Nat.not_lt.2 hle), if_pos hblank]
  rw [heq, hcheck]
  rfl

/-- **Settings that were written are read back.** Lines of different settings in
any order are read without fault exactly if what they give can be used, and then
each setting is what its line gives, or the default where no line gives it.
Otherwise a mode that is no number of 32 bits is reported with its value and the
place where it stands; else a mode that is too large, in octal; else a blank
program. -/
theorem Style.ofDocument_document (style : Style) (lines : List Line)
    (hkeys : (lines.map Line.key).Nodup) :
    ((∃ settings, ofDocument (style.document lines) = .ok settings) ↔ Suit lines) ∧
      (∀ settings, ofDocument (style.document lines) = .ok settings → Gives lines settings) ∧
      (∀ before value rest, lines = before ++ .mode value :: rest →
        ¬ (0 ≤ value.toInt ∧ value.toInt < modeBound) →
          ∃ span, ofDocument (style.document lines) = .error (.document
              (.unsuitable (style.document lines) span (.outOfRange value.toInt .mode))) ∧
            excerpt (style.document lines) span =
              ⟨before.length, 12, (Line.mode value).text style.capital,
                (integerText value.toInt).length⟩ ∧
            (Problem.document (.unsuitable (style.document lines) span
                (.outOfRange value.toInt .mode))).text =
              rangeMessage before.length ((Line.mode value).text style.capital)
                (integerText value.toInt)) ∧
      (∀ value, .mode value ∈ lines → (maxMode : Int) < value.toInt → value.toInt < modeBound →
        ofDocument (style.document lines) = .error (.modeTooLarge value.toInt.toNat) ∧
          (Problem.modeTooLarge value.toInt.toNat).text =
            "file_mode ".toList ++ Nat.toDigits 8 value.toInt.toNat ++ " exceeds 0o777".toList) ∧
      ((∀ value, .mode value ∈ lines → 0 ≤ value.toInt ∧ value.toInt ≤ (maxMode : Int)) →
        ∀ content, .bin content ∈ lines → Text.isAllBlank content = true →
          ofDocument (style.document lines) = .error .blankBin ∧
            Problem.blankBin.text = "scaffold_bin must not be empty".toList) := by
  refine ⟨style.exists_ofDocument_iff hkeys,
    fun settings h => (style.gives_of_ofDocument hkeys h).2.1, ?_,
    fun value hline hlarge hbound =>
      ⟨style.ofDocument_of_tooLarge hkeys hline hlarge hbound, rfl⟩,
    fun hmode content hline hblank =>
      ⟨style.ofDocument_of_blank hkeys hmode hline hblank, rfl⟩⟩
  rintro before value rest rfl hvalue
  exact ⟨style.span (.mode value) rest,
    style.ofDocument_of_outOfRange hkeys fun h => hvalue (h value rfl),
    style.excerpt_mode before value rest, style.text_of_outOfRange before value rest⟩

/-- Three lines that can be used, and a negative mode on the second of two. -/
theorem Style.ofDocument_document_of_lines :
    let style : Style := ⟨true, false⟩
    let good : List Line := [.bin ['k', '\x22', '\n'], .mode 0o600, .switch true]
    let bad : List Line := [.bin [' '], .mode (-1)]
    (good.map Line.key).Nodup ∧
      style.document good =
        "scaffold_bin = \"k\\\"\\u000A\"\nfile_mode = 384\natomic_writes = true".toList ∧
      ofDocument (style.document good) = .ok ⟨0o600, true, ['k', '\x22', '\n']⟩ ∧ Suit good ∧
      (bad.map Line.key).Nodup ∧
      ∃ span, ofDocument (style.document bad) =
          .error (.document (.unsuitable (style.document bad) span (.outOfRange (-1) .mode))) ∧
        excerpt (style.document bad) span = ⟨1, 12, "file_mode = -1".toList, 2⟩ ∧
        (Problem.document (.unsuitable (style.document bad) span (.outOfRange (-1) .mode))).text =
          ("TOML parse error at line 2, column 13\n  |\n2 | file_mode = -1\n" ++
            "  |             ^^\ninvalid value: integer `-1`, expected u32\n").toList := by
  intro style good bad
  have hgood : (good.map Line.key).Nodup := by decide +kernel
  have hread : ofDocument (style.document good) = .ok ⟨0o600, true, ['k', '\x22', '\n']⟩ := by
    decide +kernel
  have hbad : (bad.map Line.key).Nodup := by decide +kernel
  obtain ⟨span, herror, hplace, hmessage⟩ := (style.ofDocument_document bad hbad).2.2.1
    [.bin [' ']] (-1) [] rfl (by decide)
  have htext : (Line.mode (-1)).text true = "file_mode = -1".toList := by decide +kernel
  refine ⟨hgood, by decide +kernel, hread, (style.ofDocument_document good hgood).1.1 ⟨_, hread⟩,
    hbad, span, herror, ?_, hmessage.trans (by decide +kernel)⟩
  rw [hplace, htext]
  rfl

end Settings

end Graft
