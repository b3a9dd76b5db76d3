import Locator.Json.Structure
import Locator.Proofs.Results
import Mathlib.Data.List.DropRight

/-! Every reader stays inside the text it is given, so a fault has a place in that text. -/

namespace Locator.Json

lemma byteSize_cons (c : Char) (s : List Char) : byteSize (c :: s) = c.utf8Size + byteSize s := rfl

lemma byteSize_append (s t : List Char) : byteSize (s ++ t) = byteSize s + byteSize t := by
  induction s with
  | nil => simp [byteSize]
  | cons c s ih => rw [List.cons_append, byteSize_cons, byteSize_cons, ih, Nat.add_assoc]

lemma byteSize_le_of_suffix {s t : List Char} (h : t <:+ s) : byteSize t ≤ byteSize s := by
  obtain ⟨u, rfl⟩ := h
  rw [byteSize_append]
  omega

/-- What comes of reading `s`, where `rest` tells what a result leaves to be read. -/
inductive Inside {α : Type} (rest : α → List Char) (s : List Char) : Except Fault α → Prop
  | result {a : α} : rest a <:+ s → Inside rest s (.ok a)
  | fault {e : Fault} : e.left ≤ byteSize s → Inside rest s (.error e)

namespace Inside

variable {α β : Type} {rest : α → List Char} {rest' : β → List Char} {s t : List Char}
  {x : Except Fault α}

lemma mono (h : t <:+ s) (hx : Inside rest t x) : Inside rest s x := by
  cases hx with
  | result ha => exact .result (ha.trans h)
  | fault he => exact .fault (he.trans (byteSize_le_of_suffix h))

lemma before (h : t <:+ s) (reason : Reason) : Inside rest s (.error (.before t reason)) :=
  .fault (byteSize_le_of_suffix h)

lemma past (h : t <:+ s) (reason : Reason) : Inside rest s (.error (.past t reason)) :=
  .fault ((Nat.sub_le _ 1).trans (byteSize_le_of_suffix h))

lemma bind {f : α → Except Fault β} (hx : Inside rest s x)
    (hf : ∀ a, Inside rest' (rest a) (f a)) : Inside rest' s (x.bind f) := by
  cases hx with
  | result ha => exact (hf _).mono ha
  | fault he => exact .fault he

lemma map {f : α → β} (hx : Inside rest s x) (hf : ∀ a, rest' (f a) = rest a) :
    Inside rest' s (x.map f) := by
  cases hx with
  | result ha => exact .result (by rwa [hf])
  | fault he => exact .fault he

lemma left_le {e : Fault} (h : Inside rest s (.error e)) : e.left ≤ byteSize s := by
  cases h with
  | fault he => exact he

lemma suffix {a : α} (h : Inside rest s (.ok a)) : rest a <:+ s := by
  cases h with
  | result ha => exact ha

end Inside

lemma skipBlank_suffix (s : List Char) : skipBlank s <:+ s := List.dropWhile_suffix isBlank

lemma inside_readLetters (word s : List Char) : Inside id s (readLetters word s) := by
  induction word generalizing s with
  | nil => exact .result List.suffix_rfl
  | cons c word ih =>
    cases s with
    | nil => exact .before List.suffix_rfl _
    | cons d s =>
      rw [readLetters]
      split
      · exact (ih s).mono (List.suffix_cons d s)
      · exact .past List.suffix_rfl _

lemma left_notHex_le (s : List Char) : (notHex s).left ≤ byteSize s := by
  rw [notHex]
  split
  · exact Nat.zero_le _
  · exact Nat.sub_le _ _

lemma inside_readHex (s : List Char) : Inside Prod.snd s (readHex s) := by
  rw [readHex.eq_def]
  split
  · next a b c d r =>
    split
    · exact .result ⟨[a, b, c, d], rfl⟩
    · exact .fault (left_notHex_le _)
  · exact .fault (left_notHex_le s)

lemma inside_readLow (high : Nat) (s : List Char) : Inside Prod.snd s (readLow high s) := by
  rw [readLow.eq_def]
  split
  · next r =>
    refine ((inside_readHex r).bind ?_).mono ⟨['\\', 'u'], rfl⟩
    rintro ⟨low, t⟩
    dsimp only
    split
    · exact .result List.suffix_rfl
    · exact .before List.suffix_rfl _
  · exact .before List.suffix_rfl _
  · exact .before (List.nil_suffix) _
  · exact .past (List.suffix_cons _ _) _
  · exact .past List.suffix_rfl _

lemma inside_readCodePoint (s : List Char) : Inside Prod.snd s (readCodePoint s) := by
  refine (inside_readHex s).bind ?_
  rintro ⟨n, r⟩
  dsimp only
  split
  · exact .before List.suffix_rfl _
  split
  · exact inside_readLow n r
  · exact .result List.suffix_rfl

lemma inside_readEscape (s : List Char) : Inside Prod.snd s (readEscape s) := by
  cases s with
  | nil => exact .before List.suffix_rfl _
  | cons c r =>
    rw [readEscape]
    split
    · exact .result (List.suffix_cons c r)
    split
    · exact (inside_readCodePoint r).mono (List.suffix_cons c r)
    · exact .past List.suffix_rfl _

lemma inside_skipEscape (s : List Char) : Inside id s (skipEscape s) := by
  cases s with
  | nil => exact .before List.suffix_rfl _
  | cons c r =>
    rw [skipEscape]
    split
    · exact .result (List.suffix_cons c r)
    split
    · apply Inside.mono (List.suffix_cons c r)
      exact (inside_readHex r).map fun _ => rfl
    · exact .past List.suffix_rfl _

lemma inside_readString (s : List Char) : Inside Prod.snd s (readString s) := by
  fun_induction readString s with
  | case1 => exact .before List.suffix_rfl _
  | case2 r => exact .result (List.suffix_cons _ r)
  | case3 r e he =>
    have hr := inside_readEscape r
    rw [he] at hr
    exact .fault (hr.left_le.trans (byteSize_le_of_suffix (List.suffix_cons _ r)))
  | case4 r d t ht _ ih =>
    have hr := inside_readEscape r
    rw [ht] at hr
    apply Inside.mono (hr.suffix.trans (List.suffix_cons _ r))
    exact ih.map fun _ => rfl
  | case5 => exact .past List.suffix_rfl _
  | case6 c r _ _ _ ih =>
    apply Inside.mono (List.suffix_cons c r)
    exact ih.map fun _ => rfl

lemma inside_skipString (s : List Char) : Inside id s (skipString s) := by
  fun_induction skipString s with
  | case1 => exact .before List.suffix_rfl _
  | case2 r => exact .result (List.suffix_cons _ r)
  | case3 r e he =>
    have hr := inside_skipEscape r
    rw [he] at hr
    exact .fault (hr.left_le.trans (byteSize_le_of_suffix (List.suffix_cons _ r)))
  | case4 r t ht _ ih =>
    have hr := inside_skipEscape r
    rw [ht] at hr
    exact ih.mono (hr.suffix.trans (List.suffix_cons _ r))
  | case5 => exact .before List.suffix_rfl _
  | case6 c r _ _ _ ih => exact ih.mono (List.suffix_cons c r)

lemma skipDigits_suffix (s : List Char) : skipDigits s <:+ s := List.dropWhile_suffix Char.isDigit

lemma readSign_suffix (s : List Char) : (readSign s).2 <:+ s := by
  rw [readSign.eq_def]
  split
  · exact List.suffix_cons _ _
  · exact List.suffix_cons _ _
  · exact List.suffix_rfl

lemma inside_skipExponent (s : List Char) : Inside id s (skipExponent s) := by
  apply Inside.mono (readSign_suffix s)
  rw [skipExponent]
  split
  · exact .result (skipDigits_suffix _)
  · exact .past List.suffix_rfl _

lemma inside_skipExponent? (s : List Char) : Inside id s (skipExponent? s) := by
  rw [skipExponent?.eq_def]
  split
  · exact (inside_skipExponent _).mono (List.suffix_cons _ _)
  · exact (inside_skipExponent _).mono (List.suffix_cons _ _)
  · exact .result List.suffix_rfl

lemma inside_skipFraction? (s : List Char) : Inside id s (skipFraction? s) := by
  rw [skipFraction?.eq_def]
  split
  · next r =>
    apply Inside.mono (List.suffix_cons _ r)
    split
    · exact (inside_skipExponent? _).mono (skipDigits_suffix r)
    · exact .past List.suffix_rfl _
  · exact inside_skipExponent? s

lemma inside_skipNumber (s : List Char) : Inside id s (skipNumber s) := by
  rw [skipNumber.eq_def]
  split
  · next r =>
    apply Inside.mono (List.suffix_cons _ r)
    split
    · exact .past List.suffix_rfl _
    · exact inside_skipFraction? r
  · split
    · exact (inside_skipFraction? _).mono (skipDigits_suffix s)
    · exact .past List.suffix_rfl _

lemma readDigits_suffix (significand count : Nat) (s : List Char) :
    (readDigits significand count s).2.2 <:+ s := by
  induction s generalizing significand count with
  | nil => exact List.suffix_rfl
  | cons c r ih =>
    rw [readDigits]
    split
    · exact (ih _ _).trans (List.suffix_cons c r)
    · exact List.suffix_rfl

lemma readExponentDigits_suffix (e : Nat) (s : List Char) : (readExponentDigits e s).2 <:+ s := by
  induction s generalizing e with
  | nil => exact List.suffix_rfl
  | cons c r ih =>
    rw [readExponentDigits]
    split
    · split
      · exact (ih _).trans (List.suffix_cons c r)
      · exact List.suffix_cons c r
    · exact List.suffix_rfl

section Floats

variable (negative : Bool) (significand : Nat)

lemma inside_floatFound (e : Int) (s : List Char) :
    Inside Prod.snd s (floatFound negative significand e s) := by
  rw [floatFound]
  split
  · exact .result List.suffix_rfl
  · exact .before List.suffix_rfl _

lemma inside_readExponent (e : Int) (s : List Char) :
    Inside Prod.snd s (readExponent negative significand e s) := by
  apply Inside.mono (readSign_suffix s)
  simp only [readExponent]
  cases (readSign s).2 with
  | nil => exact .before List.suffix_rfl _
  | cons c t =>
    dsimp only
    split
    · apply Inside.mono ((readExponentDigits_suffix (digit c) t).trans (List.suffix_cons c t))
      rcases readExponentDigits (digit c) t with ⟨_ | k, u⟩
      · dsimp only
        split
        · exact .result (skipDigits_suffix u)
        · exact .before List.suffix_rfl _
      · exact inside_floatFound negative significand _ u
    · exact .past List.suffix_rfl _

lemma inside_readExponent? (e : Int) (s : List Char) :
    Inside Prod.snd s (readExponent? negative significand e s) := by
  rw [readExponent?.eq_def]
  split
  · exact (inside_readExponent negative significand e _).mono (List.suffix_cons _ _)
  · exact (inside_readExponent negative significand e _).mono (List.suffix_cons _ _)
  · exact inside_floatFound negative significand e s

lemma inside_readFraction (e : Int) (s : List Char) :
    Inside Prod.snd s (readFraction negative significand e s) := by
  rw [readFraction]
  split
  · apply Inside.mono ((skipDigits_suffix _).trans (readDigits_suffix significand 0 s))
    exact inside_readExponent? negative _ _ _
  split
  · exact .before (List.nil_suffix) _
  · exact .past List.suffix_rfl _

lemma inside_integerFound (s : List Char) :
    Inside Prod.snd s (integerFound negative significand s) := by
  rw [integerFound]
  split
  · exact .result List.suffix_rfl
  split
  · exact inside_floatFound true significand 0 s
  · exact .result List.suffix_rfl

lemma inside_readTail (extra : Nat) (s : List Char) :
    Inside Prod.snd s (readTail negative significand extra s) := by
  rw [readTail.eq_def]
  split
  · exact (inside_readFraction negative significand extra _).mono (List.suffix_cons _ _)
  · exact (inside_readExponent negative significand extra _).mono (List.suffix_cons _ _)
  · exact (inside_readExponent negative significand extra _).mono (List.suffix_cons _ _)
  split
  · exact inside_integerFound negative significand s
  · exact inside_floatFound negative significand extra s

end Floats

lemma inside_readNumber (negative : Bool) (s : List Char) :
    Inside Prod.snd s (readNumber negative s) := by
  rw [readNumber.eq_def]
  split
  · exact .before List.suffix_rfl _
  · next r =>
    apply Inside.mono (List.suffix_cons _ r)
    split
    · exact .past List.suffix_rfl _
    · exact inside_readTail negative 0 0 r
  split
  · apply Inside.mono ((skipDigits_suffix _).trans (readDigits_suffix 0 0 s))
    exact inside_readTail negative _ _ _
  · exact .past List.suffix_rfl _

lemma suffix_of_skipBlank {s t : List Char} (h : skipBlank s = t) : t <:+ s := by
  rw [← h]
  exact skipBlank_suffix s

lemma tail_suffix_of_skipBlank {s r : List Char} {c : Char} (h : skipBlank s = c :: r) : r <:+ s :=
  (List.suffix_cons c r).trans (suffix_of_skipBlank h)

lemma inside_readColon (s : List Char) : Inside id s (readColon s) := by
  apply Inside.mono (skipBlank_suffix s)
  rw [readColon]
  cases skipBlank s with
  | nil => exact .past List.suffix_rfl _
  | cons c r =>
    dsimp only
    split
    · exact .result (List.suffix_cons c r)
    · exact .past List.suffix_rfl _

lemma inside_skipKey (s : List Char) : Inside id s (skipKey s) := by
  apply Inside.mono (skipBlank_suffix s)
  rw [skipKey]
  cases skipBlank s with
  | nil => exact .past List.suffix_rfl _
  | cons c r =>
    dsimp only
    split
    · exact ((inside_skipString r).bind inside_readColon).mono (List.suffix_cons c r)
    · exact .past List.suffix_rfl _

lemma inside_skipToValue (b : Bracket) (s : List Char) : Inside id s (skipToValue b s) := by
  cases b with
  | list => exact .result List.suffix_rfl
  | object => exact inside_skipKey s

lemma inside_skipScalar (c : Char) (r : List Char) : Inside id (c :: r) (skipScalar c r) := by
  have hr := List.suffix_cons c r
  rw [skipScalar]
  split
  · exact (inside_readLetters _ r).mono hr
  split
  · exact (inside_readLetters _ r).mono hr
  split
  · exact (inside_readLetters _ r).mono hr
  split
  · exact (inside_skipNumber r).mono hr
  split
  · exact inside_skipNumber (c :: r)
  split
  · exact (inside_skipString r).mono hr
  · exact .past List.suffix_rfl _

lemma inside_skipOpen (brackets : List Bracket) (expected : Expected) (s : List Char) :
    Inside id s (skipOpen brackets expected s) := by
  fun_induction skipOpen brackets expected s with
  | case1 => exact .past List.nil_suffix _
  | case2 s _ r hs ih => exact ih.mono (tail_suffix_of_skipBlank hs)
  | case3 s _ r hs _ ih => exact ih.mono (tail_suffix_of_skipBlank hs)
  | case4 s _ c r hs _ _ e he =>
    have hc := inside_skipScalar c r
    rw [he] at hc
    exact .fault (hc.mono (suffix_of_skipBlank hs)).left_le
  | case5 s _ c r hs _ _ t ht ih =>
    have hc := inside_skipScalar c r
    rw [ht] at hc
    exact ih.mono (hc.mono (suffix_of_skipBlank hs)).suffix
  | case6 => exact .result List.suffix_rfl
  | case7 => exact .past List.nil_suffix _
  | case8 s b _ r hs ih => exact ih.mono (tail_suffix_of_skipBlank hs)
  | case9 s b _ c r hs _ e he =>
    have hc := inside_skipToValue b (c :: r)
    rw [he] at hc
    exact .fault (hc.mono (suffix_of_skipBlank hs)).left_le
  | case10 s b _ c r hs _ t ht ih =>
    have hc := inside_skipToValue b (c :: r)
    rw [ht] at hc
    exact ih.mono (hc.mono (suffix_of_skipBlank hs)).suffix
  | case11 => exact .past List.nil_suffix _
  | case12 s b _ r hs ih => exact ih.mono (tail_suffix_of_skipBlank hs)
  | case13 s b _ r e he hs _ =>
    have hr := inside_skipToValue b r
    rw [he] at hr
    exact .fault (hr.mono (tail_suffix_of_skipBlank hs)).left_le
  | case14 s b _ r t ht hs _ ih =>
    have hr := inside_skipToValue b r
    rw [ht] at hr
    exact ih.mono (hr.mono (tail_suffix_of_skipBlank hs)).suffix
  | case15 s b _ c r hs _ _ => exact .past (suffix_of_skipBlank hs) _

lemma left_unexpectedKind_le (expected : String) {s : List Char}
    {x : Except Fault (Found × List Char)} (hx : Inside Prod.snd s x) :
    (unexpectedKind expected x).left ≤ byteSize s := by
  cases hx with
  | result ha => exact byteSize_le_of_suffix ha
  | fault he => exact he

lemma left_unexpected_le (expected : String) (s : List Char) :
    (unexpected expected s).left ≤ byteSize s := by
  cases s with
  | nil => exact Nat.le_refl _
  | cons c r =>
    have hr := List.suffix_cons c r
    have hletters (word : List Char) (found : Found) :
        Inside Prod.snd (c :: r) ((readLetters word r).map (found, ·)) := by
      apply Inside.mono hr
      exact (inside_readLetters word r).map fun _ => rfl
    rw [unexpected]
    split
    · exact left_unexpectedKind_le expected (hletters _ _)
    split
    · exact left_unexpectedKind_le expected (hletters _ _)
    split
    · exact left_unexpectedKind_le expected (hletters _ _)
    split
    · exact left_unexpectedKind_le expected ((inside_readNumber true r).mono hr)
    split
    · exact left_unexpectedKind_le expected (inside_readNumber false (c :: r))
    split
    · apply left_unexpectedKind_le expected
      apply Inside.mono hr
      exact (inside_readString r).map fun _ => rfl
    split
    · exact left_unexpectedKind_le expected (.result List.suffix_rfl)
    split
    · exact left_unexpectedKind_le expected (.result List.suffix_rfl)
    · exact Nat.sub_le _ 1

lemma inside_readText (s : List Char) : Inside Prod.snd s (readText s) := by
  apply Inside.mono (skipBlank_suffix s)
  rw [readText]
  cases skipBlank s with
  | nil => exact .past List.suffix_rfl _
  | cons c r =>
    dsimp only
    split
    · apply Inside.mono (List.suffix_cons c r)
      exact (inside_readString r).map fun _ => rfl
    · exact .fault (left_unexpected_le _ _)

lemma inside_readText? (s : List Char) : Inside Prod.snd s (readText? s) := by
  rw [readText?]
  split
  · next r hs =>
    apply Inside.mono (tail_suffix_of_skipBlank hs)
    exact (inside_readLetters _ r).map fun _ => rfl
  · exact (inside_readText s).map fun _ => rfl

lemma inside_readKey (s : List Char) : Inside Prod.snd s (readKey s) := by
  cases s with
  | nil => exact .past List.suffix_rfl _
  | cons c r =>
    rw [readKey]
    split
    · apply Inside.mono (List.suffix_cons c r)
      exact (inside_readString r).map fun _ => rfl
    split
    · exact .past List.suffix_rfl _
    · exact .past List.suffix_rfl _

lemma inside_nextKey (first : Bool) (s : List Char) : Inside Prod.snd s (nextKey first s) := by
  apply Inside.mono (skipBlank_suffix s)
  rw [nextKey]
  cases skipBlank s with
  | nil => exact .past List.suffix_rfl _
  | cons c r =>
    dsimp only
    split
    · exact .result List.suffix_rfl
    split
    · exact inside_readKey (c :: r)
    split
    · exact (inside_readKey _).mono ((skipBlank_suffix r).trans (List.suffix_cons c r))
    · exact .past List.suffix_rfl _

lemma inside_nextElement (first : Bool) (s : List Char) :
    Inside Prod.snd s (nextElement first s) := by
  apply Inside.mono (skipBlank_suffix s)
  rw [nextElement]
  cases skipBlank s with
  | nil => exact .past List.suffix_rfl _
  | cons c r =>
    dsimp only
    split
    · exact .result List.suffix_rfl
    split
    · exact .result List.suffix_rfl
    split
    · apply Inside.mono ((skipBlank_suffix r).trans (List.suffix_cons c r))
      cases skipBlank r with
      | nil => exact .past List.suffix_rfl _
      | cons d t =>
        dsimp only
        split
        · exact .past List.suffix_rfl _
        · exact .result List.suffix_rfl
    · exact .past List.suffix_rfl _

lemma inside_endObject (s : List Char) : Inside id s (endObject s) := by
  apply Inside.mono (skipBlank_suffix s)
  rw [endObject]
  cases skipBlank s with
  | nil => exact .past List.suffix_rfl _
  | cons c r =>
    dsimp only
    split
    · exact .result (List.suffix_cons c r)
    split
    · exact .past List.suffix_rfl _
    · exact .past List.suffix_rfl _

lemma inside_endList (s : List Char) : Inside id s (endList s) := by
  apply Inside.mono (skipBlank_suffix s)
  rw [endList]
  cases skipBlank s with
  | nil => exact .past List.suffix_rfl _
  | cons c r =>
    dsimp only
    split
    · exact .result (List.suffix_cons c r)
    split
    · apply Inside.mono ((skipBlank_suffix r).trans (List.suffix_cons c r))
      split
      · next hr =>
        rw [hr]
        exact .past List.suffix_rfl _
      · exact .past List.suffix_rfl _
    · exact .past List.suffix_rfl _

lemma leaveObject_suffix (s : List Char) : leaveObject s <:+ s := by
  rw [leaveObject]
  split
  · next hs => exact tail_suffix_of_skipBlank hs
  · exact skipBlank_suffix s

lemma left_le_of_readDocument {α : Type} {read : List Char → Except Fault (α × List Char)}
    (hread : ∀ s, Inside Prod.snd s (read s)) {text : String} {e : Fault}
    (h : readDocument read text = .error e) : e.left ≤ byteSize text.toList := by
  suffices hdocument : Inside (fun _ => []) text.toList (readDocument read text) by
    rw [h] at hdocument
    exact hdocument.left_le
  refine (hread text.toList).bind ?_
  rintro ⟨value, r⟩
  dsimp only
  split
  · exact .result List.nil_suffix
  · exact .past (skipBlank_suffix r) _

lemma length_encode (text : String) : (Utf8.encode text).length = byteSize text.toList := by
  rw [Utf8.encode]
  induction text.toList with
  | nil => rfl
  | cons c s ih => rw [List.flatMap_cons, List.length_append, ih, byteSize_cons,
      String.length_utf8EncodeChar]

structure LineStart (bs : Bytes) (i start : Nat) : Prop where
  le : start ≤ i
  opens : start = 0 ∨ bs[start - 1]? = some newline
  unbroken : newline ∉ (bs.take i).drop start

lemma Place.lineStart_after {bs : Bytes} {i : Nat} (hi : i ≤ bs.length) :
    ∃ start, LineStart bs i start ∧ (Place.after bs i).column = i - start := by
  let lines := (bs.take i).rdropWhile (· != newline)
  let part := (bs.take i).rtakeWhile (· != newline)
  have hparts : lines ++ part = bs.take i := List.rdropWhile_append_rtakeWhile
  have hlength : lines.length + part.length = i := by
    rw [← List.length_append, hparts, List.length_take]
    omega
  have hcolumn : (Place.after bs i).column = part.length := by
    simp [Place.after, part, List.rtakeWhile]
  refine ⟨lines.length, ⟨by omega, ?_, ?_⟩, by omega⟩
  · by_cases hlines : lines = []
    · exact .inl (by rw [hlines]; rfl)
    · right
      have hlast : lines.getLast hlines = newline := by
        simpa using List.rdropWhile_last_not _ _ hlines
      obtain ⟨rest, hrest⟩ := (List.rdropWhile_prefix _ _).trans (List.take_prefix i bs)
      have hpos : lines.length - 1 < lines.length := by
        have := List.length_pos_iff.mpr hlines
        omega
      rw [← hrest, List.getElem?_append_left hpos, ← List.getLast?_eq_getElem?,
        List.getLast?_eq_some_getLast hlines, hlast]
  · rw [← hparts, List.drop_left]
    intro hmem
    simpa using List.mem_rtakeWhile_imp hmem

structure Marks (bs : Bytes) (i : Nat) (p : Place) : Prop where
  inside : i ≤ bs.length
  line : p.line = 1 + (bs.take i).count newline
  column : ∃ start, LineStart bs i start ∧ p.column = i - start

lemma Place.marks_after {bs : Bytes} {i : Nat} (hi : i ≤ bs.length) :
    Marks bs i (Place.after bs i) where
  inside := hi
  line := Nat.add_comm _ 1
  column := lineStart_after hi

lemma Fault.marks_place {f : Fault} {text : String} (h : f.left ≤ byteSize text.toList) :
    ∃ i, i + f.left = (Utf8.encode text).length ∧ Marks (Utf8.encode text) i (f.place text) := by
  rw [← length_encode] at h
  refine ⟨(Utf8.encode text).length - f.left, Nat.sub_add_cancel h, ?_⟩
  exact Place.marks_after (Nat.sub_le _ _)

end Locator.Json
