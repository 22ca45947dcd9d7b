import OAuthEndpoint.Proofs.Url.Parser

/-! The parts of a URL in normal form.  Authorities hold no mark of a path or a query, and the segments
of a path are neither steps nor cut by slashes, whatever the text that they were read from
(`Walk.along_isSegment`). -/

namespace OAuthEndpoint.Url

open Text

/-! ### Breaks -/

theorem unbroken_eq_self {text : List Char} (h : ∀ c ∈ text, isBreak c = false) :
    unbroken text = text := by
  rw [unbroken, List.filter_eq_self]
  intro c hc
  rw [h c hc, Bool.not_false]

theorem Visible.isBreak_eq_false {c : Char} (h : Visible c) : isBreak c = false :=
  forall_ascii (P := fun c => Visible c → isBreak c = false) (by decide +kernel) h.lt_ascii h

theorem unbroken_of_visible {text : List Char} (h : ∀ c ∈ text, Visible c) :
    unbroken text = text :=
  unbroken_eq_self fun c hc => (h c hc).isBreak_eq_false

/-! ### Authorities -/

/-- The characters of an authority: none that starts a path or a query, and no `@`, which only ends
user info. -/
def isAuthorityChar (c : Char) : Bool := !(c == '/' || c == '\\' || c == '?' || c == '@')

theorem isSlash_of_isAuthorityChar {kind : SchemeKind} {c : Char}
    (h : isAuthorityChar c = true) : isSlash kind c = false := by
  simp only [isAuthorityChar, Bool.not_eq_true', Bool.or_eq_false_iff] at h
  simp [isSlash, h.1.1.1, h.1.1.2]

theorem isAuthorityChar_of_keepsInUserinfo {c : Char} (h : Percent.keepsInUserinfo c = true) :
    isAuthorityChar c = true ∧ c ≠ ':' :=
  forall_ascii (P := fun c => Percent.keepsInUserinfo c = true →
    isAuthorityChar c = true ∧ c ≠ ':') (by decide +kernel)
    (visible_of_keepsInUserinfo h).lt_ascii h

theorem IsHostText.isAuthorityChar {text : List Char} (h : IsHostText text) :
    ∀ c ∈ text, isAuthorityChar c = true := by
  refine h.forall_mem (fun c hvisible hfree => ?_) (by decide) (by decide) (by decide)
  exact forall_ascii (P := fun c => forbiddenInHost c = false → Url.isAuthorityChar c = true)
    (by decide +kernel) hvisible.lt_ascii hfree

/-! ### Segments -/

/-- A segment that a path keeps: it holds no slash and is no step. -/
structure IsSegment (kind : SchemeKind) (segment : String) : Prop where
  kept : MadeOf (fun c => Percent.keepsInPath c = true ∧ isSlash kind c = false) segment
  notDot : isDot segment.toList = false
  notDoubleDot : isDoubleDot segment.toList = false

theorem isSegment_empty (kind : SchemeKind) : IsSegment kind "" :=
  ⟨madeOf_empty, by decide, by decide⟩

/-- The ways to write `.` and `..`, up to the case of letters. -/
def steps : List (List Char) :=
  [".".toList, "%2e".toList, "..".toList, ".%2e".toList, "%2e.".toList, "%2e%2e".toList]

theorem mem_steps {segment : List Char} (h : isDot segment = true ∨ isDoubleDot segment = true) :
    segment.map Char.toLower ∈ steps := by
  have hlower : (lower (String.ofList segment)).toList = segment.map Char.toLower := by
    rw [lower, String.toList_ofList, String.toList_ofList]
  rw [← hlower]
  simp only [isDot, isDoubleDot, decide_eq_true_eq, List.mem_cons, List.not_mem_nil, or_false] at h
  rcases h with (h | h) | (h | h | h | h) <;> rw [h] <;> decide

/-- A step holds no escape but that of a dot. -/
theorem not_isInfix_steps : ∀ n < 256, n ≠ 0x2E → ∀ step ∈ steps,
    ¬(Percent.escape (UInt8.ofNat n)).map Char.toLower <:+: step := by
  decide +kernel

/-- What an encoding makes of a name is a step only where it leaves the name alone. -/
theorem encode_eq_self_of_mem_steps {name : List Char}
    (h : (Percent.encode Percent.keepsInPath name).map Char.toLower ∈ steps) :
    Percent.encode Percent.keepsInPath name = name := by
  refine Percent.encode_eq_self fun c hc => Decidable.byContradiction fun hnot => ?_
  have hdot : c ≠ '.' := by
    rintro rfl
    exact hnot (by decide)
  -- A character that is not kept is no dot, and so its first byte has an escape that no step holds.
  obtain ⟨b, bytes, hbytes⟩ := List.exists_cons_of_ne_nil (String.utf8EncodeChar_ne_nil (c := c))
  have hb : b ≠ 0x2E :=
    Utf8.ne_of_mem_encodeChar (d := '.') (by decide) hdot b (hbytes ▸ List.mem_cons_self)
  have hescape : Percent.escape b <:+: Percent.encode Percent.keepsInPath name := by
    obtain ⟨before, after, rfl⟩ := List.append_of_mem hc
    refine ⟨Percent.encode Percent.keepsInPath before,
      bytes.flatMap Percent.escape ++ Percent.encode Percent.keepsInPath after, ?_⟩
    simp [Percent.encode, hnot, Percent.escapeChar, hbytes]
  have hinfix := hescape.map Char.toLower
  rw [← UInt8.ofNat_toNat (x := b)] at hinfix
  refine not_isInfix_steps b.toNat b.toNat_lt ?_ _ h hinfix
  exact fun heq => hb (UInt8.toNat_inj.mp heq)

theorem isSegment_segmentName {kind : SchemeKind} {name : List Char}
    (hwhole : ∀ c ∈ name, isSlash kind c = false) (hdot : isDot name = false)
    (hdouble : isDoubleDot name = false) : IsSegment kind (segmentName name) := by
  have hname : (segmentName name).toList = Percent.encode Percent.keepsInPath name :=
    String.toList_ofList
  have hnot : ¬(isDot (segmentName name).toList = true ∨
      isDoubleDot (segmentName name).toList = true) := by
    intro h
    have hself := encode_eq_self_of_mem_steps (hname ▸ mem_steps h)
    rw [hname, hself, hdot, hdouble] at h
    simp at h
  rw [not_or, Bool.not_eq_true, Bool.not_eq_true] at hnot
  refine ⟨madeOf_ofList.mpr ?_, hnot.1, hnot.2⟩
  have hescapes : isSlash kind '%' = false ∧ ∀ n < 16, isSlash kind (hexDigit n) = false := by
    cases kind <;> decide
  exact Percent.of_mem_encode ⟨by decide, hescapes.1⟩
    (fun n hn => ⟨(by decide : ∀ n < 16, Percent.keepsInPath (hexDigit n) = true) n hn,
      hescapes.2 n hn⟩)
    fun c hc hkeeps => ⟨hkeeps, hwhole c hc⟩

theorem isSegment_drive {name : List Char} (h : isDrive name = true) :
    IsSegment .file (String.ofList (name.take 1 ++ [':'])) := by
  obtain ⟨letter, mark, rfl, halpha, -⟩ := exists_of_isDrive h
  have hletter := forall_ascii (P := fun c => c.isAlpha = true →
    (Percent.keepsInPath c = true ∧ isSlash .file c = false) ∧ isDot [c, ':'] = false ∧
      isDoubleDot [c, ':'] = false) (by decide +kernel) (visible_of_isAlpha halpha).lt_ascii halpha
  refine ⟨madeOf_ofList.mpr ?_, ?_, ?_⟩
  · refine List.forall_mem_cons.mpr ⟨hletter.1, ?_⟩
    exact List.forall_mem_singleton.mpr (by decide)
  · rw [String.toList_ofList]
    exact hletter.2.1
  · rw [String.toList_ofList]
    exact hletter.2.2

/-- Without a break there is no drive that one parts from more text. -/
theorem brokenDrive?_eq_none {segment : List Char} (h : ∀ c ∈ segment, isBreak c = false) :
    brokenDrive? segment = none := by
  have hsub : ∀ {part text : List Char}, part ⊆ text → part.dropWhile isBreak ⊆ text :=
    fun hpart => List.Subset.trans (List.dropWhile_sublist _).subset hpart
  unfold brokenDrive?
  split
  · rfl
  next letter rest hletter =>
    split
    · next mark rest' hmark =>
      have hmem : mark ∈ segment := by
        have hrest : rest ⊆ segment := fun c hc =>
          hsub (List.Subset.refl segment) (hletter ▸ List.mem_cons_of_mem letter hc)
        exact hsub hrest (hmark ▸ by simp)
      simp [h mark hmem]
    · rfl

namespace Walk

variable {kind : SchemeKind}

theorem down_isSegment {walk : Walk} {segment : List Char} (h : walk.Of (IsSegment kind))
    (hwhole : ∀ c ∈ segment, isSlash kind c = false)
    (hunbroken : kind = .file → ∀ c ∈ segment, isBreak c = false)
    (hdot : isDot (unbroken segment) = false) (hdouble : isDoubleDot (unbroken segment) = false) :
    (walk.down kind segment).Of (IsSegment kind) := by
  have hname : IsSegment kind (segmentName (unbroken segment)) :=
    isSegment_segmentName (fun c hc => hwhole c ((List.mem_filter.mp hc).1)) hdot hdouble
  unfold Walk.down
  simp only
  split
  · next hfile =>
    rw [Bool.and_eq_true, decide_eq_true_eq] at hfile
    have hkind := hfile.1
    split
    · next hdrive =>
      rw [hkind]
      exact List.forall_mem_singleton.mpr (isSegment_drive hdrive)
    · rw [brokenDrive?_eq_none (hunbroken hkind)]
      exact List.forall_mem_singleton.mpr hname
  · exact Of.push h hname

theorem along_isSegment {text : List Char}
    (hunbroken : kind = .file → ∀ c ∈ text, isBreak c = false) :
    (along kind text).Of (IsSegment kind) :=
  of_along (isSegment_empty kind) fun _ h _ hsegment hdot hdouble =>
    down_isSegment h (fun c hc => (mem_of_mem_split hsegment c hc).2)
      (fun hkind c hc => hunbroken hkind c (mem_of_mem_split hsegment c hc).1) hdot hdouble

theorem names_down_ne_nil {walk : Walk} {segment : List Char} :
    (walk.down kind segment).names ≠ [] := by
  unfold down
  simp only
  split
  · split
    · exact List.cons_ne_nil _ _
    · split <;> exact List.cons_ne_nil _ _
  · exact List.cons_ne_nil _ _

theorem names_along_ne_nil {text : List Char} : (along kind text).names ≠ [] := by
  unfold along finish
  simp only
  split
  · exact List.cons_ne_nil _ _
  split
  · exact List.cons_ne_nil _ _
  · exact names_down_ne_nil

end Walk

end OAuthEndpoint.Url
