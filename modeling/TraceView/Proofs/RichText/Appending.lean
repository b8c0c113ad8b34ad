import TraceView.Proofs.RichText.Parts
import TraceView.Tooltip
import Mathlib.Data.List.Induction

/-!
Texts joined end to end. Behind whole tokens all that is left of a text is the color selected last and
the text since the last token that was none, so what follows is read as a text of its own, and at most
one run goes on across the seam. A color code that breaks off takes the bytes it lacks from what
follows.
-/

namespace TraceView.RichText

def isTextByte (x : UInt8) : Bool := x != lineFeed && x != escape

theorem isPlain_singleton {x : UInt8} (h : isTextByte x = true) : IsPlain [x] := by
  rw [isTextByte, Bool.and_eq_true, bne_iff_ne, bne_iff_ne] at h
  exact isPlain_cons.mpr ⟨h, isPlain_nil⟩

inductive Token where
  | text (x : UInt8) (h : isTextByte x = true)
  | lineBreak
  | select (c : Rgba)

namespace Token

def bytes : Token → Bytes
  | .text x _ => [x]
  | .lineBreak => [lineFeed]
  | .select c => colorCode c

def isText : Token → Bool
  | .text .. => true
  | _ => false

def color? : Token → Option Rgba
  | .select c => some c
  | _ => none

end Token

def ofTokens (ts : List Token) : RichText := ⟨ts.flatMap Token.bytes⟩

def selected (color : Rgba) (ts : List Token) : Rgba :=
  (ts.filterMap Token.color?).getLast?.getD color

def endsInText (ts : List Token) : Bool := ts.getLast?.any Token.isText

def startsWithText (t : RichText) : Bool := t.bytes.head?.any isTextByte

def BreaksOff (t : RichText) (ts : List Token) (code : Bytes) : Prop :=
  t.bytes = (ofTokens ts).bytes ++ escape :: code ∧ code.length < 4

@[simp] theorem bytes_ofTokens_append (ts ts' : List Token) :
    (ofTokens (ts ++ ts')).bytes = (ofTokens ts).bytes ++ (ofTokens ts').bytes :=
  List.flatMap_append

@[simp] theorem selected_concat (color : Rgba) (ts : List Token) (tok : Token) :
    selected color (ts ++ [tok]) = tok.color?.getD (selected color ts) := by
  cases tok <;> simp [selected, Token.color?]

@[simp] theorem endsInText_concat (ts : List Token) (tok : Token) :
    endsInText (ts ++ [tok]) = tok.isText := by
  simp [endsInText]

theorem isWhole_ofTokens (ts : List Token) : IsWhole (ofTokens ts).bytes := by
  induction ts with
  | nil => exact .nil
  | cons tok ts ih =>
    cases tok with
    | text x h => exact .byte (isPlain_cons.mp (isPlain_singleton h)).1.2 ih
    | lineBreak => exact .byte (by decide) ih
    | select c => exact .code ih

theorem exists_tokens_of_plain {text : Bytes} (h : IsPlain text) :
    ∃ ts, text = (ofTokens ts).bytes := by
  induction text with
  | nil => exact ⟨[], rfl⟩
  | cons x text ih =>
    obtain ⟨⟨hlf, hesc⟩, htext⟩ := isPlain_cons.mp h
    obtain ⟨ts, rfl⟩ := ih htext
    have hx : isTextByte x = true := by simp [isTextByte, hlf, hesc]
    exact ⟨.text x hx :: ts, rfl⟩

theorem tokens_or_breaksOff_append (front : List Token) {xs : Bytes}
    (h : (∃ ts, mk xs = ofTokens ts) ∨ ∃ ts code, BreaksOff ⟨xs⟩ ts code) :
    (∃ ts, mk ((ofTokens front).bytes ++ xs) = ofTokens ts) ∨
      ∃ ts code, BreaksOff ⟨(ofTokens front).bytes ++ xs⟩ ts code := by
  rcases h with ⟨ts, hts⟩ | ⟨ts, code, hcode, hlength⟩
  · cases hts
    exact .inl ⟨front ++ ts, congrArg mk (bytes_ofTokens_append front ts).symm⟩
  · refine .inr ⟨front ++ ts, code, ?_, hlength⟩
    rw [bytes_ofTokens_append, List.append_assoc]
    exact congrArg ((ofTokens front).bytes ++ ·) hcode

theorem tokens_or_breaksOff (xs : Bytes) :
    (∃ ts, mk xs = ofTokens ts) ∨ ∃ ts code, BreaksOff ⟨xs⟩ ts code := by
  obtain ⟨segs, hreads⟩ : ∃ segs, Segment.Reads .white xs segs := ⟨_, Segment.reads_iff.mpr rfl⟩
  generalize Rgba.white = color at hreads
  induction hreads with
  | finish h =>
    obtain ⟨ts, rfl⟩ := exists_tokens_of_plain h
    exact .inl ⟨ts, rfl⟩
  | newline h _ ih =>
    obtain ⟨ts, rfl⟩ := exists_tokens_of_plain h
    have hread := tokens_or_breaksOff_append (ts ++ [.lineBreak]) ih
    rwa [bytes_ofTokens_append, List.append_assoc] at hread
  | @select _ r g b a _ _ _ h _ ih =>
    obtain ⟨ts, rfl⟩ := exists_tokens_of_plain h
    have hread := tokens_or_breaksOff_append (ts ++ [.select ⟨r, g, b, a⟩]) ih
    rwa [bytes_ofTokens_append, List.append_assoc] at hread
  | truncated h short =>
    obtain ⟨ts, rfl⟩ := exists_tokens_of_plain h
    exact .inr ⟨ts, _, rfl, short⟩

theorem exists_tokens_iff (t : RichText) :
    (∃ ts, t = ofTokens ts) ↔ ¬ ∃ ts code, BreaksOff t ts code := by
  constructor
  · rintro ⟨ts, rfl⟩ ⟨ts', code, hcode, hlength⟩
    exact (isWhole_ofTokens ts).not_truncated (isWhole_ofTokens ts') hlength hcode
  · exact (tokens_or_breaksOff t.bytes).resolve_right

open Segment (parse parseFrom runs)

/-- Where a reader stands behind whole tokens: with the color selected last, some segments done, and
text taken exactly if the last token is text. -/
theorem parse_tokens (ts : List Token) (color : Rgba) :
    ∃ done taken, (taken = [] ↔ endsInText ts = false) ∧
      ∀ rest, parse ((ofTokens ts).bytes ++ rest) color =
        done ++ parseFrom taken (selected color ts) rest := by
  induction ts using List.reverseRecOn with
  | nil => exact ⟨[], [], by simp [endsInText], fun rest => rfl⟩
  | append_singleton ts tok ih =>
    obtain ⟨done, taken, -, hparse⟩ := ih
    rw [endsInText_concat, selected_concat]
    cases tok with
    | text x h =>
      refine ⟨done, x :: taken, by simp [Token.isText], fun rest => ?_⟩
      rw [bytes_ofTokens_append, List.append_assoc, hparse]
      exact congrArg (done ++ ·) (Segment.parseFrom_plain (isPlain_singleton h) taken _ rest)
    | lineBreak =>
      refine ⟨done ++ (runs taken.reverse (selected color ts) ++ [.lineBreak]), [], by
        simp [Token.isText], fun rest => ?_⟩
      have hline := Segment.parseFrom_lineFeed taken (selected color ts) rest
      rw [bytes_ofTokens_append, List.append_assoc, hparse, List.append_assoc, List.append_assoc]
      exact congrArg (done ++ ·) hline
    | select c =>
      refine ⟨done ++ runs taken.reverse (selected color ts), [], by simp [Token.isText],
        fun rest => ?_⟩
      have hcode := Segment.parseFrom_escape taken (selected color ts) c.r c.g c.b c.a rest
      rw [bytes_ofTokens_append, List.append_assoc, hparse, List.append_assoc]
      exact congrArg (done ++ ·) hcode

theorem exists_color_of_length {bs : Bytes} (h : bs.length = 4) : ∃ c : Rgba, bs = c.bytes := by
  match bs, h with
  | [r, g, b, a], _ => exact ⟨⟨r, g, b, a⟩, rfl⟩

theorem parseFrom_of_not_text {xs : Bytes} (h : startsWithText ⟨xs⟩ = false) (taken : Bytes)
    (color : Rgba) : parseFrom taken color xs = runs taken.reverse color ++ parse xs color := by
  cases xs with
  | nil => simp [Segment.parseFrom_nil, parse, runs]
  | cons x xs =>
    have hx : x = lineFeed ∨ x = escape := by
      by_contra hne
      simp_all [startsWithText, isTextByte]
    rcases hx with rfl | rfl
    · rw [parse, Segment.parseFrom_lineFeed, Segment.parseFrom_lineFeed]
      rfl
    · by_cases hshort : xs.length < 4
      · rw [parse, Segment.parseFrom_truncated hshort, Segment.parseFrom_truncated hshort]
        exact (List.append_nil _).symm
      · have hfour := List.length_take_of_le (Nat.not_lt.mp hshort)
        obtain ⟨c, hc⟩ := exists_color_of_length hfour
        have hcode (taken : Bytes) :=
          Segment.parseFrom_escape taken color c.r c.g c.b c.a (xs.drop 4)
        rw [← List.take_append_drop 4 xs, hc]
        exact (hcode taken).trans (congrArg (runs taken.reverse color ++ ·) (hcode []).symm)

theorem exists_plain_prefix (xs : Bytes) :
    ∃ text rest, xs = text ++ rest ∧ IsPlain text ∧ startsWithText ⟨rest⟩ = false := by
  induction xs with
  | nil => exact ⟨[], [], rfl, isPlain_nil, rfl⟩
  | cons x xs ih =>
    cases hx : isTextByte x with
    | false => exact ⟨[], x :: xs, rfl, isPlain_nil, hx⟩
    | true =>
      obtain ⟨text, rest, rfl, htext, hrest⟩ := ih
      have hplain := (isPlain_cons.mp (isPlain_singleton hx)).1
      exact ⟨x :: text, rest, rfl, isPlain_cons.mpr ⟨hplain, htext⟩, hrest⟩

theorem parseFrom_of_text {xs : Bytes} (h : startsWithText ⟨xs⟩ = true) (color : Rgba) :
    ∃ text after, ∀ taken,
      parseFrom taken color xs = .run (taken.reverse ++ text) color :: after := by
  obtain ⟨text, rest, rfl, htext, hrest⟩ := exists_plain_prefix xs
  have hne : text ≠ [] := by
    rintro rfl
    rw [List.nil_append, hrest] at h
    cases h
  refine ⟨text, parse rest color, fun taken => ?_⟩
  rw [Segment.parseFrom_plain htext, parseFrom_of_not_text hrest, List.reverse_append,
    List.reverse_reverse, runs, if_neg (by simp [hne])]
  rfl

variable (ts : List Token) (u : RichText) (color : Rgba)

theorem segments_append_of_apart (h : (endsInText ts && startsWithText u) = false) :
    (ofTokens ts ++ u).segments color =
      (ofTokens ts).segments color ++ u.segments (selected color ts) := by
  obtain ⟨done, taken, htaken, hparse⟩ := parse_tokens ts color
  have hfront := hparse []
  rw [List.append_nil, Segment.parseFrom_nil] at hfront
  simp only [segments_eq_parse, bytes_append, hparse, hfront, List.append_assoc]
  congr 1
  rcases Bool.and_eq_false_iff.mp h with hends | hstarts
  · rw [htaken.mpr hends]
    rfl
  · exact parseFrom_of_not_text hstarts taken _

theorem segments_append_of_joined (hends : endsInText ts = true) (hstarts : startsWithText u = true) :
    ∃ before text text' after,
      (ofTokens ts).segments color = before ++ [.run text (selected color ts)] ∧
      u.segments (selected color ts) = .run text' (selected color ts) :: after ∧
      (ofTokens ts ++ u).segments color =
        before ++ .run (text ++ text') (selected color ts) :: after := by
  obtain ⟨done, taken, htaken, hparse⟩ := parse_tokens ts color
  obtain ⟨text', after, hrest⟩ := parseFrom_of_text hstarts (selected color ts)
  have hne : taken.reverse ≠ [] := by
    intro hnil
    rw [htaken.mp (List.reverse_eq_nil_iff.mp hnil)] at hends
    cases hends
  have hfront := hparse []
  rw [List.append_nil, Segment.parseFrom_nil, runs, if_neg hne] at hfront
  simp only [segments_eq_parse, bytes_append]
  exact ⟨done, taken.reverse, text', after, hfront, hrest [], by rw [hparse, hrest]⟩

theorem segments_append_of_breaksOff {t : RichText} {code : Bytes} (h : BreaksOff t ts code)
    {c : Rgba} {rest : Bytes} (hbytes : code ++ u.bytes = c.bytes ++ rest) :
    (t ++ u).segments color = (ofTokens ts).segments color ++ (mk rest).segments c := by
  obtain ⟨done, taken, -, hparse⟩ := parse_tokens ts color
  have hfront := hparse []
  rw [List.append_nil, Segment.parseFrom_nil] at hfront
  have hcode := Segment.parseFrom_escape taken (selected color ts) c.r c.g c.b c.a rest
  simp only [segments_eq_parse, bytes_append, h.1, List.append_assoc, List.cons_append, hbytes,
    hparse, hfront]
  exact congrArg (done ++ ·) hcode

theorem segments_append_of_short {t : RichText} {code : Bytes} (h : BreaksOff t ts code)
    (hshort : code.length + u.size < 4) :
    (t ++ u).segments color = (ofTokens ts).segments color := by
  obtain ⟨done, taken, -, hparse⟩ := parse_tokens ts color
  have hfront := hparse []
  rw [List.append_nil, Segment.parseFrom_nil] at hfront
  have hlength : (code ++ u.bytes).length < 4 := by rwa [List.length_append]
  simp only [segments_eq_parse, bytes_append, h.1, List.append_assoc, List.cons_append, hparse,
    hfront, Segment.parseFrom_truncated hlength]

/-- Appending goes on where the text stopped. A text is read to its end, or it breaks off within a
color code. Behind whole tokens the rest is read as a text of its own in the color selected last, and
what is joined is one run at most: the last one, if the last token is text and the rest begins with
text. A color code that broke off is made whole by the rest, or it ends the text. -/
theorem append_resumes_at_seam (t u : RichText) (color : Rgba) :
    (t.pushBytes u.bytes = t ++ u ∧ ((Tooltip.mk t).add u).pending = t ++ u) ∧
      ((∃ ts, t = ofTokens ts) ↔ ¬ ∃ ts code, BreaksOff t ts code) ∧
      (∀ ts, t = ofTokens ts →
        let c := selected color ts
        if endsInText ts && startsWithText u then
          ∃ before text text' after,
            t.segments color = before ++ [.run text c] ∧ u.segments c = .run text' c :: after ∧
              (t ++ u).segments color = before ++ .run (text ++ text') c :: after
        else (t ++ u).segments color = t.segments color ++ u.segments c) ∧
      ∀ ts code, BreaksOff t ts code →
        let missing := 4 - code.length
        if u.size < missing then (t ++ u).segments color = (ofTokens ts).segments color
        else ∃ c : Rgba, code ++ u.bytes.take missing = c.bytes ∧
          (t ++ u).segments color =
            (ofTokens ts).segments color ++ (mk (u.bytes.drop missing)).segments c := by
  refine ⟨⟨rfl, rfl⟩, exists_tokens_iff t, ?_, ?_⟩
  · rintro ts rfl c
    split
    case isTrue hjoined =>
      obtain ⟨hends, hstarts⟩ := Bool.and_eq_true_iff.mp hjoined
      exact segments_append_of_joined ts u color hends hstarts
    case isFalse hapart =>
      exact segments_append_of_apart ts u color (Bool.eq_false_iff.mpr hapart)
  · intro ts code hbreaks missing
    split
    case isTrue hshort =>
      exact segments_append_of_short ts u color hbreaks (by omega)
    case isFalse hlong =>
      have hfour : (code ++ u.bytes.take missing).length = 4 := by
        have hcode := hbreaks.2
        rw [size] at hlong
        rw [List.length_append, List.length_take]
        omega
      obtain ⟨c, hc⟩ := exists_color_of_length hfour
      refine ⟨c, hc, segments_append_of_breaksOff ts u color hbreaks ?_⟩
      rw [← hc, List.append_assoc, List.take_append_drop]

example : (RichText.mk [0x61, 0x1B, 0x0A, 0x1B] ++ ⟨[0x0A, 0x62, 0x63]⟩).segments .white =
    [.run [0x61] .white, .run [0x63] ⟨0x0A, 0x1B, 0x0A, 0x62⟩] := by decide

end TraceView.RichText
