import TraceView.Diagnostics.Event
import TraceView.Loader.Scan
import TraceView.Proofs.RichText.Parts

namespace TraceView

open RichText

theorem escapeFree_digits (n : Nat) : EscapeFree (Decimal.digits n) := by
  rw [EscapeFree, Decimal.digits, String.toList_ofList]
  intro h
  have := Nat.isDigit_of_mem_toDigits (by decide) (by decide) h
  exact absurd this (by decide)

theorem escapeFree_word (l : Level) : EscapeFree l.word := by
  cases l <;> decide

theorem escapeFree_ringName (r : Ring) : EscapeFree r.name := by
  rw [← Ring.ofIndex_index r]
  generalize r.index = i
  revert i
  decide

namespace Event

def messageParts (text : Rgba) (f : Field) : List (Rgba × String) :=
  if f.name = "message" then [(text, shownOutside f.value.plain)] else []

def fieldParts (dim : Rgba) (f : Field) : List (Rgba × String) :=
  if f.name = "message" then []
  else [(dim, " "), (dim, shownOutside f.name), (dim, "="), (dim, shownOutside f.value.plain)]

def headParts (e : Event) (palette : Palette) (withTarget : Bool) : List (Rgba × String) :=
  [(e.level.color palette, e.level.word), (palette.get .barText, " ")] ++
    if withTarget then [(palette.get .dimText, shownOutside e.target), (palette.get .barText, ": ")]
    else []

def parts (e : Event) (palette : Palette) (withTarget : Bool) : List (Rgba × String) :=
  e.headParts palette withTarget ++ e.fields.flatMap (messageParts (palette.get .barText)) ++
    e.fields.flatMap (fieldParts (palette.get .dimText))

theorem shown_message (color : Rgba) (fields : List Field) (t : EventText) :
    shown color (shownOutside (fields.foldl .record t).message) =
      shown color (shownOutside t.message) ++ shownParts (fields.flatMap (messageParts color)) := by
  induction fields generalizing t with
  | nil => exact (List.append_nil _).symm
  | cons f fields ih =>
    rw [List.foldl_cons, ih, List.flatMap_cons, shownParts_append, ← List.append_assoc]
    refine congrArg (· ++ shownParts (fields.flatMap (messageParts color))) ?_
    by_cases hname : f.name = "message" <;>
      simp [EventText.record, Field.isMessage, messageParts, hname, shownParts, shownOutside_append,
        shown_append]

theorem shown_fields (color : Rgba) (fields : List Field) (t : EventText) :
    shown color (shownOutside (fields.foldl .record t).fields) =
      shown color (shownOutside t.fields) ++ shownParts (fields.flatMap (fieldParts color)) := by
  have hblank : shownOutside " " = " " := shownOutside_of_escapeFree (by decide)
  have hequals : shownOutside "=" = "=" := shownOutside_of_escapeFree (by decide)
  induction fields generalizing t with
  | nil => exact (List.append_nil _).symm
  | cons f fields ih =>
    rw [List.foldl_cons, ih, List.flatMap_cons, shownParts_append, ← List.append_assoc]
    refine congrArg (· ++ shownParts (fields.flatMap (fieldParts color))) ?_
    by_cases hname : f.name = "message" <;>
      simp [EventText.record, Field.isMessage, fieldParts, hname, shownParts, shownOutside_append,
        shown_append, hblank, hequals]

theorem shows_rest (e : Event) (palette : Palette) {head : RichText} {parts : List (Rgba × String)}
    (h : head.Paints (palette.get .barText) parts) :
    (let head := head.pushText (withoutEscapes e.text.message)
      if e.text.fields.isEmpty then head
      else head.pushColored (palette.get .dimText) (withoutEscapes e.text.fields)).Shows
      (parts ++ e.fields.flatMap (messageParts (palette.get .barText)) ++
        e.fields.flatMap (fieldParts (palette.get .dimText))) := by
  have hmessage := h.pushText (escapeFree_shownOutside e.text.message)
  have hfields := hmessage.pushColored (palette.get .dimText)
    (escapeFree_shownOutside e.text.fields)
  have hshown : shownParts (parts ++ [(palette.get .barText, shownOutside e.text.message)] ++
      [(palette.get .dimText, shownOutside e.text.fields)]) =
        shownParts (parts ++ e.fields.flatMap (messageParts (palette.get .barText)) ++
          e.fields.flatMap (fieldParts (palette.get .dimText))) := by
    simp only [shownParts_append, text]
    simp only [shownParts, List.flatMap_cons, List.flatMap_nil, List.append_nil]
    rw [shown_message, shown_fields]
    rfl
  simp only [withoutEscapes_eq]
  split
  case isTrue hnone =>
    refine hmessage.shows.congr ?_
    rw [← hshown, shownParts_append _ [(palette.get .dimText, _)], String.isEmpty_iff.mp hnone]
    exact (List.append_nil _).symm
  case isFalse => exact hfields.shows.congr hshown

theorem shows_entry (e : Event) (palette : Palette) (withTarget : Bool) :
    (e.entry palette withTarget).Shows (e.parts palette withTarget) := by
  have hlevel := Paints.first (e.level.color palette) (escapeFree_word e.level)
  have hstart := (hlevel.pushColor (palette.get .barText)).pushText (s := " ") (by decide)
  cases withTarget with
  | false => exact shows_rest e palette hstart
  | true =>
    have htarget := hstart.pushColored (palette.get .dimText) (escapeFree_shownOutside e.target)
    exact shows_rest e palette
      ((htarget.pushColor (palette.get .barText)).pushText (s := ": ") (by decide))

end Event

namespace Scan

def ringParts (palette : Palette) (ring : Ring × Nat) : List (Rgba × String) :=
  [(palette.get .barText, "\n"), (palette.get .dimText, "  "), (palette.get .yellowText, ring.1.name),
    (palette.get .barText, " x" ++ Decimal.digits ring.2)]

def summaryParts (s : LoadSummary) (palette : Palette) : List (Rgba × String) :=
  [(palette.get .greenText, "Loaded "), (palette.get .brightText, shownOutside s.path.text),
    (palette.get .barText,
      ": " ++ Decimal.digits s.lines ++ " lines, " ++ Decimal.digits s.bytes ++ " bytes")] ++
    s.rings.flatMap (ringParts palette)

def failureParts (path : Path) (cause : FileError) (palette : Palette) : List (Rgba × String) :=
  let red := palette.get .redText
  [(red, "Failed to load "), (red, shownOutside path.text), (red, ": "),
    (red, shownOutside cause.message)]

theorem paints_rings (palette : Palette) (rings : List (Ring × Nat)) {t : RichText}
    {parts : List (Rgba × String)} (h : t.Paints (palette.get .barText) parts) :
    (rings.foldl (ringLine palette) t).Paints (palette.get .barText)
      (parts ++ rings.flatMap (ringParts palette)) := by
  induction rings generalizing t parts with
  | nil => simpa using h
  | cons ring rings ih =>
    have hindent := h.pushNewline.pushColored (palette.get .dimText) (s := "  ") (by decide)
    have hname := hindent.pushColored (palette.get .yellowText) (escapeFree_ringName ring.1)
    have hcount := hname.pushColored (palette.get .barText)
      (EscapeFree.append (s := " x") (by decide) (escapeFree_digits ring.2))
    have hrings := ih hcount
    simpa [ringParts, ringLine] using hrings

theorem shows_summaryEntry (s : LoadSummary) (palette : Palette) :
    (summaryEntry s palette).Shows (summaryParts s palette) := by
  have hhead := Paints.first (palette.get .greenText) (s := "Loaded ") (by decide)
  have hpath := hhead.pushColored (palette.get .brightText) (escapeFree_shownOutside s.path.text)
  have hcounts : EscapeFree
      (": " ++ Decimal.digits s.lines ++ " lines, " ++ Decimal.digits s.bytes ++ " bytes") :=
    .append (.append (.append (.append (by decide) (escapeFree_digits _)) (by decide))
      (escapeFree_digits _)) (by decide)
  have hbytes := (hpath.pushColor (palette.get .barText)).pushText hcounts
  exact (paints_rings palette s.rings hbytes).shows

theorem shows_failureEntry (path : Path) (cause : FileError) (palette : Palette) :
    (failureEntry path cause palette).Shows (failureParts path cause palette) := by
  have hentry := (Paints.first (palette.get .redText) (escapeFree_shownOutside
    ("Failed to load " ++ path.text ++ ": " ++ cause.message))).shows
  have hstart : shownOutside "Failed to load " = "Failed to load " :=
    shownOutside_of_escapeFree (by decide)
  have hcolon : shownOutside ": " = ": " := shownOutside_of_escapeFree (by decide)
  refine hentry.congr ?_
  simp only [failureParts, shownParts, List.flatMap_cons, List.flatMap_nil, List.append_nil,
    shownOutside_append, shown_append, hstart, hcolon, List.append_assoc]

end Scan

/-- Whatever the string from outside, it is shown in one color, between parts that do not depend on
it. -/
def Apart (entry : String → RichText) (color : Rgba) : Prop :=
  ∃ before after, ∀ s, (entry s).Shows (before ++ (color, shownOutside s) :: after)

namespace Event

variable (e : Event) (palette : Palette) (withTarget : Bool)

def withField (before after : List Field) (f : Field) : Event :=
  { e with fields := before ++ f :: after }

theorem field_apart (before after : List Field) :
    ∃ front middle back, ∀ f, ((e.withField before after f).entry palette withTarget).Shows
      (front ++ messageParts (palette.get .barText) f ++ middle ++
        fieldParts (palette.get .dimText) f ++ back) := by
  refine ⟨e.headParts palette withTarget ++ before.flatMap (messageParts (palette.get .barText)),
    after.flatMap (messageParts (palette.get .barText)) ++
      before.flatMap (fieldParts (palette.get .dimText)),
    after.flatMap (fieldParts (palette.get .dimText)), fun f => ?_⟩
  have h := shows_entry (e.withField before after f) palette withTarget
  simp only [parts, withField, headParts, List.flatMap_append, List.flatMap_cons,
    List.append_assoc] at h ⊢
  exact h

theorem apart_message (before after : List Field) {value : String → FieldValue}
    (hvalue : ∀ s, (value s).plain = s) :
    Apart (fun s => (e.withField before after ⟨"message", value s⟩).entry palette withTarget)
      (palette.get .barText) := by
  obtain ⟨front, middle, back, h⟩ := field_apart e palette withTarget before after
  refine ⟨front, middle ++ back, fun s => ?_⟩
  have hshows := h ⟨"message", value s⟩
  simpa [messageParts, fieldParts, hvalue] using hshows

theorem apart_target :
    Apart (fun s => { e with target := s }.entry palette true) (palette.get .dimText) := by
  refine ⟨[(e.level.color palette, e.level.word), (palette.get .barText, " ")],
    (palette.get .barText, ": ") :: (e.fields.flatMap (messageParts (palette.get .barText)) ++
      e.fields.flatMap (fieldParts (palette.get .dimText))), fun s => ?_⟩
  have h := shows_entry { e with target := s } palette true
  simpa [parts, headParts] using h

theorem entry_withTarget_false (s : String) :
    { e with target := s }.entry palette false = e.entry palette false := by
  simp only [entry, text, Bool.false_eq_true, if_false]

end Event

namespace Scan

theorem apart_summaryPath (s : LoadSummary) (palette : Palette) :
    Apart (fun path => summaryEntry { s with path := ⟨path⟩ } palette) (palette.get .brightText) :=
  ⟨[(palette.get .greenText, "Loaded ")], (summaryParts s palette).drop 2,
    fun path => shows_summaryEntry { s with path := ⟨path⟩ } palette⟩

theorem apart_failurePath (cause : FileError) (palette : Palette) :
    Apart (fun path => failureEntry ⟨path⟩ cause palette) (palette.get .redText) :=
  ⟨[(palette.get .redText, "Failed to load ")], _,
    fun path => shows_failureEntry ⟨path⟩ cause palette⟩

theorem apart_failureCause (path : Path) (palette : Palette) :
    Apart (fun text => failureEntry path (.other text) palette) (palette.get .redText) :=
  ⟨(failureParts path .notFound palette).take 3, [],
    fun text => shows_failureEntry path (.other text) palette⟩

end Scan

/-- Entries read to their end and show their parts, each in its own color; no string from outside
bears on what comes before or after it. A target that is not shown bears on nothing, and what becomes of
a field does not bear on the others, where it is a message or where it is not. -/
theorem outside_text_keeps_its_part (palette : Palette) :
    (∀ (e : Event) (withTarget : Bool),
      (e.entry palette withTarget).Shows (e.parts palette withTarget)) ∧
    (∀ s, (Scan.summaryEntry s palette).Shows (Scan.summaryParts s palette)) ∧
    (∀ path cause,
      (Scan.failureEntry path cause palette).Shows (Scan.failureParts path cause palette)) ∧
    (∀ e : Event,
      Apart (fun s => { e with target := s }.entry palette true) (palette.get .dimText) ∧
      (∀ s, { e with target := s }.entry palette false = e.entry palette false) ∧
      ∀ withTarget before after,
        Apart (fun s => (e.withField before after ⟨"message", .text s⟩).entry palette withTarget)
          (palette.get .barText) ∧
        Apart (fun s => (e.withField before after ⟨"message", .shown s⟩).entry palette withTarget)
          (palette.get .barText) ∧
        ∃ front middle back, ∀ f, ((e.withField before after f).entry palette withTarget).Shows
          (front ++ Event.messageParts (palette.get .barText) f ++ middle ++
            Event.fieldParts (palette.get .dimText) f ++ back)) ∧
    (∀ s : LoadSummary, Apart (fun path => Scan.summaryEntry { s with path := ⟨path⟩ } palette)
      (palette.get .brightText)) ∧
    (∀ cause, Apart (fun path => Scan.failureEntry ⟨path⟩ cause palette) (palette.get .redText)) ∧
    ∀ path, Apart (fun text => Scan.failureEntry path (.other text) palette)
      (palette.get .redText) := by
  refine ⟨fun e withTarget => Event.shows_entry e palette withTarget,
    fun s => Scan.shows_summaryEntry s palette,
    fun path cause => Scan.shows_failureEntry path cause palette, fun e => ?_,
    fun s => Scan.apart_summaryPath s palette, fun cause => Scan.apart_failurePath cause palette,
    fun path => Scan.apart_failureCause path palette⟩
  refine ⟨Event.apart_target e palette, Event.entry_withTarget_false e palette,
    fun withTarget before after => ?_⟩
  exact ⟨Event.apart_message e palette withTarget before after fun _ => rfl,
    Event.apart_message e palette withTarget before after fun _ => rfl,
    Event.field_apart e palette withTarget before after⟩

example : (Event.entry ⟨.info, "t", [.message "a", ⟨"message", .text "b"⟩]⟩ .standard false).plainText =
    "INFO ab" := by
  decide +kernel

end TraceView
