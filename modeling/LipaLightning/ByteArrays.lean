import LipaLightning.Basic.BracketGroups
import LipaLightning.Errors
import LipaLightning.Text
import Mathlib.Algebra.GroupWithZero.Nat

set_option autoImplicit false

/-! # Byte arrays in texts

`replace_byte_arrays_by_hex_string` (`util.rs`) shows the byte arrays in a text in hex. The
pattern it looks for also matches groups that are no byte arrays, such as `[1234]`. The first of
these ends the whole pass and the text is returned as it was, so that what becomes of a byte
array depends on the other groups of the text.
-/

namespace LipaLightning

open Brackets

/-! ## The pattern -/

/-- The zeros of the decimal digits, the characters with the Unicode property `Nd`: each is
followed by the other nine digits. -/
def decimalZeros : List Nat :=
  [0x30, 0x660, 0x6F0, 0x7C0, 0x966, 0x9E6, 0xA66, 0xAE6, 0xB66, 0xBE6, 0xC66, 0xCE6, 0xD66,
    0xDE6, 0xE50, 0xED0, 0xF20, 0x1040, 0x1090, 0x17E0, 0x1810, 0x1946, 0x19D0, 0x1A80, 0x1A90,
    0x1B50, 0x1BB0, 0x1C40, 0x1C50, 0xA620, 0xA8D0, 0xA900, 0xA9D0, 0xA9F0, 0xAA50, 0xABF0, 0xFF10,
    0x104A0, 0x10D30, 0x10D40, 0x11066, 0x110F0, 0x11136, 0x111D0, 0x112F0, 0x11450, 0x114D0,
    0x11650, 0x116C0, 0x116D0, 0x116DA, 0x11730, 0x118E0, 0x11950, 0x11BF0, 0x11C50, 0x11D50,
    0x11DA0, 0x11F50, 0x16130, 0x16A60, 0x16AC0, 0x16B50, 0x16D70, 0x1CCF0, 0x1D7CE, 0x1D7D8,
    0x1D7E2, 0x1D7EC, 0x1D7F6, 0x1E140, 0x1E2F0, 0x1E4F0, 0x1E5F1, 0x1E950, 0x1FBF0]

/-- The class `[\d\s,]`. -/
def inByteArray (c : Char) : Bool :=
  decimalZeros.any (fun z => z ≤ c.toNat && c.toNat ≤ z + 9) || isWhitespace c || c = ','

/-- The pattern `\[([\d\s,]+)]`. -/
def byteArrayPattern : Brackets Char where
  opening := '['
  closing := ']'
  inside := inByteArray
  opening_outside := by decide +kernel
  closing_outside := by decide +kernel
  opening_ne_closing := by decide

/-- The bytes that a text has in UTF-8. -/
def byteLength (cs : List Char) : ℕ := (cs.map Char.utf8Size).sum

/-- A part of a text, by the bytes it starts and ends at. -/
structure Match where
  start : ℕ
  stop : ℕ
  asStr : List Char

/-- The whole of a match, and what its groups match. -/
structure Captures where
  groups : List Match

def Captures.get (self : Captures) (i : ℕ) : Option Match := self.groups[i]?

/-- The matches among the segments of a text, of which the first one starts at `offset`. -/
def locate (offset : ℕ) : List (Segment Char) → List Captures
  | [] => []
  | .other c :: segments => locate (offset + byteLength [c]) segments
  | .group run :: segments =>
      let stop := offset + byteLength (byteArrayPattern.bracketed run)
      ⟨[⟨offset, stop, byteArrayPattern.bracketed run⟩, ⟨offset + 1, stop - 1, run⟩]⟩
        :: locate stop segments

/-- `Regex::captures_iter`: the matches of the pattern that do not overlap, from left to right. -/
def capturesIter (original : List Char) : List Captures :=
  locate 0 (byteArrayPattern.segments original)

/-! ## Slices -/

/-- Split a text after a number of bytes, unless that is in the middle of a character. -/
def splitAtByte : ℕ → List Char → Option (List Char × List Char)
  | 0, cs => some ([], cs)
  | _ + 1, [] => none
  | n + 1, c :: cs =>
      if c.utf8Size ≤ n + 1 then
        (splitAtByte (n + 1 - c.utf8Size) cs).map fun (head, tail) => (c :: head, tail)
      else none

/-- `str::get` of the bytes from `start` to `stop`. -/
def getSlice (cs : List Char) (start stop : ℕ) : Option (List Char) :=
  if start ≤ stop then do
    let (head, _) ← splitAtByte stop cs
    let (_, slice) ← splitAtByte start head
    some slice
  else none

/-- `str::get` of the bytes from `start` on. -/
def getTail (cs : List Char) (start : ℕ) : Option (List Char) := (splitAtByte start cs).map Prod.snd

/-! ## The replacement -/

/-- `parse::<u8>`. -/
def parseU8 (s : String) : Option UInt8 :=
  let digits : List Char := match s.toList with
    | '+' :: cs => cs
    | cs => cs
  let value : Nat := digits.foldl (fun n c => 10 * n + (c.toNat - '0'.toNat)) 0
  if digits ≠ [] ∧ digits.all Char.isDigit ∧ value ≤ 255 then some (.ofNat value) else none

/-- The bytes of an array, without its brackets. -/
def parseBytes (bytesAsString : List Char) : Option (List UInt8) :=
  (bytesAsString.splitOn ',').mapM fun byte => parseU8 (trim (String.ofList byte))

def hexReplacement (caps : Captures) : Result String :=
  match caps.get 1 with
  | none => .error (.permanentFailure "Captures::get(1) returned None")
  | some bytes => match parseBytes bytes.asStr with
    | none => .error (.permanentFailure
        ("Failed to parse into byte array: " ++ String.ofList bytes.asStr))
    | some bytes => .ok (hexEncode bytes)

/-- One match: `new` ends with its replacement, and `last_match` is where it ends. -/
def replaceStep (original : List Char) (replacement : Captures → Result String)
    (state : List Char × ℕ) (caps : Captures) : Result (List Char × ℕ) :=
  let (new, lastMatch) := state
  match caps.get 0 with
  | none => .error (.permanentFailure "Captures::get(0) returned None")
  | some m => match getSlice original lastMatch m.start with
    | none => .error (.permanentFailure "Indexing the match failed")
    | some subslice => do
        let replaced ← replacement caps
        .ok (new ++ subslice ++ '"' :: replaced.toList ++ ['"'], m.stop)

def replaceTail (original : List Char) (state : List Char × ℕ) : Result (List Char) :=
  let (new, lastMatch) := state
  match getTail original lastMatch with
  | none => .error (.permanentFailure "Indexing the tail failed")
  | some tail => .ok (new ++ tail)

def replaceAll (original : List Char) (replacement : Captures → Result String) :
    Result (List Char) := do
  let state ← (capturesIter original).foldlM (replaceStep original replacement) ([], 0)
  replaceTail original state

/-- Replaces all occurrences of byte arrays with their hex representation. An error is logged and
the original is returned. -/
def replaceByteArraysByHexString (original : String) : String :=
  match replaceAll original.toList hexReplacement with
  | .ok replaced => String.ofList replaced
  | .error _ => original

/-! ## Slices between characters -/

theorem byteLength_cons (c : Char) (cs : List Char) :
    byteLength (c :: cs) = c.utf8Size + byteLength cs := by
  rw [byteLength, List.map_cons, List.sum_cons, byteLength]

theorem byteLength_append (cs ds : List Char) :
    byteLength (cs ++ ds) = byteLength cs + byteLength ds := by
  rw [byteLength, List.map_append, List.sum_append, byteLength, byteLength]

/-- A split between two characters succeeds. -/
theorem splitAtByte_append (cs ds : List Char) :
    splitAtByte (byteLength cs) (cs ++ ds) = some (cs, ds) := by
  induction cs with
  | nil => cases ds <;> rfl
  | cons c cs ih =>
      have hpos := c.utf8Size_pos
      have hlength : byteLength (c :: cs) = (c.utf8Size - 1 + byteLength cs) + 1 := by
        rw [byteLength_cons]
        omega
      have hle : c.utf8Size ≤ (c.utf8Size - 1 + byteLength cs) + 1 := by omega
      have hrest : (c.utf8Size - 1 + byteLength cs) + 1 - c.utf8Size = byteLength cs := by omega
      rw [hlength, List.cons_append, splitAtByte, if_pos hle, hrest, ih]
      rfl

theorem getSlice_append (pre mid post : List Char) :
    getSlice (pre ++ mid ++ post) (byteLength pre) (byteLength (pre ++ mid)) = some mid := by
  have hle : byteLength pre ≤ byteLength (pre ++ mid) := by
    rw [byteLength_append]
    exact Nat.le_add_right _ _
  unfold getSlice
  rw [if_pos hle, splitAtByte_append]
  show (splitAtByte (byteLength pre) (pre ++ mid)).bind (fun p => some p.2) = some mid
  rw [splitAtByte_append]
  rfl

theorem getTail_append (pre post : List Char) :
    getTail (pre ++ post) (byteLength pre) = some post := by
  rw [getTail, splitAtByte_append]
  rfl

/-! ## The loop -/

def quotedHex (bytes : List UInt8) : List Char := '"' :: (hexEncode bytes).toList ++ ['"']

/-- What a segment is replaced by. A group that is no byte array is an error. -/
def replacedSegment : Segment Char → Result (List Char)
  | .other c => .ok [c]
  | .group run => match parseBytes run with
    | none => .error (.permanentFailure
        ("Failed to parse into byte array: " ++ String.ofList run))
    | some bytes => .ok (quotedHex bytes)

theorem replaceStep_group {original mid : List Char} {lastMatch start : ℕ}
    (hslice : getSlice original lastMatch start = some mid) (new run : List Char) (stop : ℕ) :
    replaceStep original hexReplacement (new, lastMatch)
        ⟨[⟨start, stop, byteArrayPattern.bracketed run⟩, ⟨start + 1, stop - 1, run⟩]⟩
      = (replacedSegment (.group run)).map fun replaced => (new ++ mid ++ replaced, stop) := by
  unfold replaceStep replacedSegment hexReplacement
  simp only [Captures.get, List.getElem?_cons_zero, List.getElem?_cons_succ, hslice]
  cases parseBytes run with
  | none => rfl
  | some bytes => simp [bind, Except.bind, Except.map, quotedHex]

/-- The loop from a match on: `pre` is what is replaced already, and `mid` what is read since. -/
theorem foldlM_replaceStep {original pre mid : List Char} {segments : List (Segment Char)}
    (new : List Char)
    (horiginal : original = pre ++ mid ++ segments.flatMap (Segment.text byteArrayPattern)) :
    ((locate (byteLength (pre ++ mid)) segments).foldlM (replaceStep original hexReplacement)
        (new, byteLength pre) >>= replaceTail original)
      = (segments.mapM replacedSegment).map fun parts => new ++ mid ++ parts.flatten := by
  induction segments generalizing pre mid new with
  | nil =>
      rw [List.flatMap_nil, List.append_nil] at horiginal
      rw [locate, List.foldlM_nil, horiginal]
      show replaceTail (pre ++ mid) (new, byteLength pre) = _
      rw [replaceTail, getTail_append, List.mapM_nil]
      simp [pure, Except.pure, Except.map]
  | cons segment segments ih =>
      cases segment with
      | other c =>
          have hmid : original
              = pre ++ (mid ++ [c]) ++ segments.flatMap (Segment.text byteArrayPattern) := by
            rw [horiginal]
            simp [Segment.text]
          have hoffset : byteLength (pre ++ mid) + byteLength [c]
              = byteLength (pre ++ (mid ++ [c])) := by
            rw [← byteLength_append, List.append_assoc]
          rw [locate, hoffset, ih new hmid, List.mapM_cons]
          simp only [replacedSegment, bind, Except.bind]
          cases segments.mapM replacedSegment with
          | error e => rfl
          | ok parts => simp [Except.map, pure, Except.pure]
      | group run =>
          have hslice : getSlice original (byteLength pre) (byteLength (pre ++ mid))
              = some mid := by
            rw [horiginal]
            exact getSlice_append pre mid _
          have hpre : original = pre ++ mid ++ byteArrayPattern.bracketed run ++ []
              ++ segments.flatMap (Segment.text byteArrayPattern) := by
            rw [horiginal]
            simp [Segment.text]
          have hoffset : byteLength (pre ++ mid) + byteLength (byteArrayPattern.bracketed run)
              = byteLength (pre ++ mid ++ byteArrayPattern.bracketed run) :=
            (byteLength_append _ _).symm
          have hstep := replaceStep_group hslice new run
            (byteLength (pre ++ mid ++ byteArrayPattern.bracketed run))
          rw [locate, List.foldlM_cons, List.mapM_cons, hoffset, hstep]
          cases replacedSegment (.group run) with
          | error e => rfl
          | ok replaced =>
              -- the match ends the part that is replaced
              have htail := ih (new ++ mid ++ replaced) hpre
              rw [List.append_nil] at htail
              simp only [bind, Except.bind, Except.map] at htail ⊢
              rw [htail]
              cases segments.mapM replacedSegment with
              | error e => rfl
              | ok parts => simp [pure, Except.pure]

theorem replaceAll_eq (original : List Char) :
    replaceAll original hexReplacement
      = ((byteArrayPattern.segments original).mapM replacedSegment).map List.flatten := by
  have htext : original = [] ++ []
      ++ (byteArrayPattern.segments original).flatMap (Segment.text byteArrayPattern) :=
    (byteArrayPattern.flatMap_text_segments original).symm
  exact foldlM_replaceStep [] htext

/-! ## Local rewriting -/

/-- What is shown of a group: a byte array in hex, and any other group as it is. -/
def shownGroup (run : List Char) : List Char :=
  match parseBytes run with
  | none => byteArrayPattern.bracketed run
  | some bytes => quotedHex bytes

/-- The group, without its brackets, is a byte array. -/
def IsByteArray (run : List Char) : Prop := (parseBytes run).isSome

/-- Every group of the text is a byte array. -/
def AllByteArrays (text : String) : Prop :=
  ∀ run, byteArrayPattern.Occurs run text.toList → IsByteArray run

/-- No group of the text is a byte array. -/
def NoByteArrays (text : String) : Prop :=
  ∀ run, byteArrayPattern.Occurs run text.toList → ¬ IsByteArray run

/-- Without other groups the pass rewrites every byte array. -/
theorem replaceAll_of_all {text : String} (h : AllByteArrays text) :
    replaceAll text.toList hexReplacement
      = .ok (byteArrayPattern.rewrite shownGroup text.toList) := by
  have hsegments : ∀ segment ∈ byteArrayPattern.segments text.toList,
      replacedSegment segment = .ok (segment.rewrite shownGroup) := by
    intro segment hmem
    cases segment with
    | other c => rfl
    | group run =>
        have harray := h run ((byteArrayPattern.mem_segments_iff run text.toList).mp hmem)
        obtain ⟨bytes, hbytes⟩ := Option.isSome_iff_exists.mp harray
        simp only [replacedSegment, Segment.rewrite, shownGroup, hbytes]
  rw [replaceAll_eq, mapM_ok hsegments, Brackets.rewrite, List.flatMap_def]
  rfl

/-- A group that is no byte array ends the pass. -/
theorem replaceAll_of_not_all {text : String} (h : ¬ AllByteArrays text) :
    ∃ e, replaceAll text.toList hexReplacement = .error e := by
  rw [replaceAll_eq]
  cases hparts : (byteArrayPattern.segments text.toList).mapM replacedSegment with
  | error e => exact ⟨e, rfl⟩
  | ok parts =>
      refine absurd (fun run hrun => ?_) h
      have hmem := (byteArrayPattern.mem_segments_iff run text.toList).mpr hrun
      obtain ⟨replaced, hreplaced⟩ := ok_of_mapM_ok hparts _ hmem
      unfold IsByteArray
      cases hbytes : parseBytes run with
      | none =>
          simp only [replacedSegment, hbytes] at hreplaced
          cases hreplaced
      | some bytes => rfl

/-! ## Lost brackets -/

theorem digitChar_ne_bracket : ∀ n < 16, Nat.digitChar n ≠ '[' := by decide

theorem count_quotedHex (bytes : List UInt8) : (quotedHex bytes).count '[' = 0 := by
  have hhex : '[' ∉ (hexEncode bytes).toList := by
    unfold hexEncode
    rw [String.toList_ofList, List.mem_flatMap]
    rintro ⟨byte, -, hmem⟩
    have hlt := byte.toNat_lt
    simp only [List.mem_cons, List.not_mem_nil, or_false] at hmem
    rcases hmem with hmem | hmem
    · exact digitChar_ne_bracket _ (by omega) hmem.symm
    · exact digitChar_ne_bracket _ (by omega) hmem.symm
  refine List.count_eq_zero.mpr ?_
  simp [quotedHex, hhex]

/-- Rewriting adds no bracket. -/
theorem count_rewrite_le (text : List Char) :
    (byteArrayPattern.rewrite shownGroup text).count '[' ≤ text.count '[' := by
  induction text using byteArrayPattern.segments_induction with
  | nil => simp [rewrite]
  | group run rest hrun ih =>
      have hshown : (shownGroup run).count '[' ≤ (byteArrayPattern.bracketed run).count '[' := by
        unfold shownGroup
        cases parseBytes run with
        | none => exact le_rfl
        | some bytes =>
            dsimp only
            rw [count_quotedHex]
            exact Nat.zero_le _
      have hrewrite : byteArrayPattern.rewrite shownGroup (byteArrayPattern.bracketed run ++ rest)
          = shownGroup run ++ byteArrayPattern.rewrite shownGroup rest := by
        rw [rewrite, byteArrayPattern.segments_bracketed hrun, List.flatMap_cons, rewrite,
          Segment.rewrite]
      rw [hrewrite, List.count_append, List.count_append]
      exact Nat.add_le_add hshown ih
  | other c rest hsplit ih =>
      have hrewrite : byteArrayPattern.rewrite shownGroup (c :: rest)
          = [c] ++ byteArrayPattern.rewrite shownGroup rest := by
        rw [rewrite, byteArrayPattern.segments_cons hsplit, List.flatMap_cons, rewrite,
          Segment.rewrite]
      rw [hrewrite, List.singleton_append, List.count_cons, List.count_cons]
      exact Nat.add_le_add_right ih _

/-- Showing a byte array in hex changes the text: its bracket is gone. -/
theorem rewrite_ne_self {text : List Char} {run : List Char}
    (hrun : byteArrayPattern.Occurs run text) (harray : IsByteArray run) :
    byteArrayPattern.rewrite shownGroup text ≠ text := by
  obtain ⟨hisRun, pre, post, rfl⟩ := hrun
  obtain ⟨bytes, hbytes⟩ := Option.isSome_iff_exists.mp harray
  intro heq
  have hcount := congrArg (List.count '[') heq
  have hpre := count_rewrite_le pre
  have hpost := count_rewrite_le post
  have hshown : (shownGroup run).count '[' = 0 := by
    unfold shownGroup
    rw [hbytes]
    exact count_quotedHex bytes
  have hbracket : 0 < (byteArrayPattern.bracketed run).count '[' :=
    List.count_pos_iff.mpr List.mem_cons_self
  rw [byteArrayPattern.rewrite_isLocal.replaces pre run post hisRun] at hcount
  simp only [List.count_append] at hcount
  omega

/-- The pass is the local rewriting exactly if the groups of the text are all byte arrays, or
none is. -/
theorem replace_eq_rewrite_iff (text : String) :
    (replaceByteArraysByHexString text).toList
        = byteArrayPattern.rewrite shownGroup text.toList ↔
      AllByteArrays text ∨ NoByteArrays text := by
  unfold replaceByteArraysByHexString
  by_cases hall : AllByteArrays text
  · rw [replaceAll_of_all hall]
    dsimp only
    rw [String.toList_ofList]
    exact iff_of_true rfl (.inl hall)
  · obtain ⟨e, he⟩ := replaceAll_of_not_all hall
    rw [he, or_iff_right hall]
    dsimp only
    constructor
    · intro heq run hrun harray
      exact rewrite_ne_self hrun harray heq.symm
    · intro hnone
      refine (byteArrayPattern.rewrite_eq_self fun run hrun => ?_).symm
      have hparse : parseBytes run = none := Option.not_isSome_iff_eq_none.mp (hnone run hrun)
      unfold shownGroup
      rw [hparse]

/-- **Byte arrays are rewritten locally**, each group of the text by itself, exactly if the
groups of the text are all byte arrays or none is. -/
theorem replaceByteArraysByHexString_local_iff (text : String) (R : List Char → List Char)
    (hlocal : byteArrayPattern.IsLocal shownGroup R) :
    (replaceByteArraysByHexString text).toList = R text.toList ↔
      AllByteArrays text ∨ NoByteArrays text := by
  rw [hlocal.eq_rewrite]
  exact replace_eq_rewrite_iff text

theorem replaceByteArraysByHexString_local_iff_hello :
    (replaceByteArraysByHexString "Hello [15, 16, 255] world").toList
        = byteArrayPattern.rewrite shownGroup "Hello [15, 16, 255] world".toList ↔
      AllByteArrays "Hello [15, 16, 255] world" ∨ NoByteArrays "Hello [15, 16, 255] world" :=
  replaceByteArraysByHexString_local_iff _ _ byteArrayPattern.rewrite_isLocal

/-- One or more digits are matched by the pattern. -/
theorem isRun_of_digits {run : List Char} (hne : run ≠ []) (hdigits : run.all Char.isDigit = true) :
    byteArrayPattern.IsRun run := by
  refine ⟨hne, fun c hc => ?_⟩
  have hdigit := List.all_eq_true.mp hdigits c hc
  have hascii : ((0x30 ≤ c.toNat && c.toNat ≤ 0x30 + 9) : Bool) = true := by
    simpa [isDigit_iff] using hdigit
  show inByteArray c = true
  rw [inByteArray, decimalZeros, List.any_cons, hascii]
  rfl

/-- A group that is no byte array keeps the byte array before it from being shown in hex. -/
theorem byte_array_kept_by_other_group :
    ¬ ∀ (text : String) (R : List Char → List Char), byteArrayPattern.IsLocal shownGroup R →
      (replaceByteArraysByHexString text).toList = R text.toList := by
  intro h
  have heq := h "[1] [1234]" _ byteArrayPattern.rewrite_isLocal
  rcases (replace_eq_rewrite_iff _).mp heq with hall | hnone
  · have hflawed : byteArrayPattern.Occurs "1234".toList "[1] [1234]".toList :=
      ⟨isRun_of_digits (by decide) (by decide), "[1] ".toList, [], rfl⟩
    exact absurd (hall _ hflawed) (by unfold IsByteArray; decide +kernel)
  · have hone : byteArrayPattern.Occurs "1".toList "[1] [1234]".toList :=
      ⟨isRun_of_digits (by decide) (by decide), [], " [1234]".toList, rfl⟩
    exact hnone _ hone (by unfold IsByteArray; decide +kernel)

end LipaLightning
