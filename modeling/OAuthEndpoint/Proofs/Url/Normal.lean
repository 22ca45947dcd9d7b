import OAuthEndpoint.Proofs.Url.Parts

/-! URLs in normal form.  Whatever the text that a hierarchical URL without a fragment was read from,
its parts are such that what is written of it is taken apart as it was put together
(`normal_of_parse`).  Only breaks in the path of a file can hide a step. -/

namespace OAuthEndpoint.Url

open Text

/-! ### Authorities -/

/-- An authority of parts that stay apart: user info of what it keeps, a host, no port that goes
without saying, and nothing but a host alone. -/
structure Authority.Normal (scheme : String) (authority : Authority) : Prop where
  username : MadeOf (fun c => Percent.keepsInUserinfo c = true) authority.username
  password : MadeOf (fun c => Percent.keepsInUserinfo c = true) authority.password
  host : ∀ host ∈ authority.host, IsHostText host.render.toList
  port : ∀ port ∈ authority.port, some port ≠ defaultPort? scheme
  hostless : authority.host = none →
    authority.username = "" ∧ authority.password = "" ∧ authority.port = none

theorem Authority.Normal.madeOf_render {scheme : String} {authority : Authority}
    (h : authority.Normal scheme) :
    MadeOf (fun c => Visible c ∧ c ≠ '?') authority.render := by
  have hquestion : ∀ {c}, isAuthorityChar c = true → c ≠ '?' := by
    rintro c hc rfl
    exact absurd hc (by decide)
  have hkept : ∀ c, Percent.keepsInUserinfo c = true → Visible c ∧ c ≠ '?' := fun c hc =>
    ⟨visible_of_keepsInUserinfo hc, hquestion (isAuthorityChar_of_keepsInUserinfo hc).1⟩
  refine Authority.madeOf_render (by decide) (by decide) (h.username.mono hkept)
    (h.password.mono hkept) fun host hhost c hc => ?_
  exact ⟨(h.host host hhost).visible c hc, hquestion ((h.host host hhost).isAuthorityChar c hc)⟩

/-- A host is missing in other schemes alone, and then no port follows. -/
theorem host_eq_none {kind : SchemeKind} {text rest : List Char}
    (h : host kind text rest = .ok none) : kind = .other ∧ rest.head? ≠ some ':' := by
  unfold host at h
  split at h
  · obtain ⟨plain, -, hname⟩ := bind_eq_ok_iff.mp h
    split at hname
    · cases hname
    · next hnot =>
      cases hname
      exact ⟨rfl, by simpa using hnot⟩
  · split at h
    · cases h
    · cases hparse : Host.parse text <;> simp [hparse, Except.map] at h

theorem port_ne_default {scheme : String} {text rest : List Char} {found : Option UInt16}
    (h : port scheme text = .ok (found, rest)) :
    ∀ number ∈ found, some number ≠ defaultPort? scheme := by
  unfold port at h
  split at h
  · simp only at h
    split at h
    · cases h
    split at h
    · rw [Except.ok.injEq, Prod.mk.injEq] at h
      rintro number rfl
      split at h
      · cases h.1
      · next hnot =>
        rw [Option.some.injEq] at h
        rw [← h.1]
        intro hdefault
        exact hnot (by simp [hdefault])
    · cases h
  · cases h
    exact fun number hnumber => absurd hnumber (by simp)

theorem port_of_ne_colon {scheme : String} {text : List Char} (h : text.head? ≠ some ':') :
    port scheme text = .ok (none, text) := by
  unfold port
  split
  · exact absurd rfl h
  · rfl

/-! ### Paths and authorities by the kind of the scheme -/

/-- The segments of a file: it starts with an empty one only if that is all there is. -/
structure IsFilePath (segments : List String) : Prop where
  ne_nil : segments ≠ []
  isSegment : ∀ segment ∈ segments, IsSegment .file segment
  first : segments.head? = some "" → segments = [""]

/-- The authority and the segments of a hierarchical URL: one of the web has a host and a path, a
file a path and at most a host, and any other an authority or a path. -/
inductive NormalHierarchy (scheme : String) : SchemeKind → Option Authority → List String → Prop
  | special {authority : Authority} {segments : List String} (hauthority : authority.Normal scheme)
      (hhost : authority.host ≠ none) (hne : segments ≠ [])
      (hsegments : ∀ segment ∈ segments, IsSegment .special segment) :
      NormalHierarchy scheme .special (some authority) segments
  | file {host : Option Host} {segments : List String}
      (hhost : ∀ name ∈ host, IsHostText name.render.toList) (hpath : IsFilePath segments) :
      NormalHierarchy scheme .file (some ⟨"", "", host, none⟩) segments
  | other {authority : Authority} {segments : List String} (hauthority : authority.Normal scheme)
      (hsegments : ∀ segment ∈ segments, IsSegment .other segment) :
      NormalHierarchy scheme .other (some authority) segments
  | bare {segments : List String} (hne : segments ≠ [])
      (hsegments : ∀ segment ∈ segments, IsSegment .other segment) :
      NormalHierarchy scheme .other none segments

namespace NormalHierarchy

variable {scheme : String} {kind : SchemeKind} {authority : Option Authority}
  {segments : List String}

theorem normal (h : NormalHierarchy scheme kind authority segments) :
    ∀ found ∈ authority, found.Normal scheme := by
  cases h with
  | special hauthority _ _ _ =>
    rintro found ⟨⟩
    exact hauthority
  | file hhost _ =>
    rintro found ⟨⟩
    exact ⟨madeOf_empty, madeOf_empty, hhost, by simp, fun _ => ⟨rfl, rfl, rfl⟩⟩
  | other hauthority _ =>
    rintro found ⟨⟩
    exact hauthority
  | bare _ _ => exact fun found h => absurd h (by simp)

theorem isSegment (h : NormalHierarchy scheme kind authority segments) :
    ∀ segment ∈ segments, IsSegment kind segment := by
  cases h with
  | special _ _ _ hsegments => exact hsegments
  | file _ hpath => exact hpath.isSegment
  | other _ hsegments => exact hsegments
  | bare _ hsegments => exact hsegments

end NormalHierarchy

theorem isSegment_of_mem_segments {kind : SchemeKind} (hkind : kind ≠ .file) (text : List Char) :
    ∀ segment ∈ segments kind text, IsSegment kind segment := by
  intro segment hsegment
  rw [segments, List.mem_reverse] at hsegment
  exact Walk.along_isSegment (fun hfile => absurd hfile hkind) segment hsegment

theorem segments_ne_nil (kind : SchemeKind) (text : List Char) : segments kind text ≠ [] := by
  rw [segments, ne_eq, List.reverse_eq_nil_iff]
  exact Walk.names_along_ne_nil

/-- The path after an authority has segments in other schemes where text is left, and in those of the
web in any case. -/
theorem segments_of_pathAfterAuthority {kind : SchemeKind} {text : List Char}
    {segments : List String} (hkind : kind ≠ .file)
    (h : pathAfterAuthority kind text = .rooted segments) :
    (∀ segment ∈ segments, IsSegment kind segment) ∧ (kind = .special → segments ≠ []) := by
  unfold pathAfterAuthority at h
  split at h
  · next hother =>
    rw [Bool.and_eq_true, decide_eq_true_eq] at hother
    cases h
    refine ⟨fun segment hsegment => absurd hsegment List.not_mem_nil, fun hspecial => ?_⟩
    rw [hother.1] at hspecial
    cases hspecial
  · rw [← Path.rooted.inj h]
    exact ⟨isSegment_of_mem_segments hkind _, fun _ => segments_ne_nil kind _⟩

theorem normal_of_authorityAndPath {scheme : String} {kind : SchemeKind} {ends : Bool}
    {text : List Char} {authority : Option Authority} {segments : List String}
    (hkind : kind ≠ .file)
    (h : authorityAndPath scheme kind ends text = .ok (authority, .rooted segments)) :
    NormalHierarchy scheme kind authority segments := by
  obtain ⟨found, afterInfo, afterHost, rest, hinfo, hhost, hport, hempty, rfl, hpath⟩ :=
    exists_of_authorityAndPath h
  obtain ⟨husername, hpassword⟩ := kept_userinfo hinfo
  obtain ⟨hsegments, hne⟩ := segments_of_pathAfterAuthority hkind hpath.symm
  have hnormal : found.Normal scheme := by
    -- A port needs a colon after the host, which is refused where there is no host.
    refine ⟨husername, hpassword, isHostText_of_host hhost, port_ne_default hport, fun hnone => ?_⟩
    rw [hnone] at hhost
    rw [port_of_ne_colon (host_eq_none hhost).2, Except.ok.injEq, Prod.mk.injEq] at hport
    exact ⟨(hempty hnone).1, (hempty hnone).2, hport.1.symm⟩
  cases kind with
  | special =>
    refine .special hnormal (fun hnone => ?_) (hne rfl) hsegments
    rw [hnone] at hhost
    exact absurd (host_eq_none hhost).1 (by decide)
  | file => exact absurd rfl hkind
  | other => exact .other hnormal hsegments

/-! ### Files -/

theorem head?_dropWhile_ne_empty {segments : List String} :
    (segments.dropWhile String.isEmpty).head? ≠ some "" := by
  intro h
  have hfirst := List.head?_dropWhile_not String.isEmpty segments
  simp [h] at hfirst

theorem normal_filePath {scheme : String} {host : Option Host} {text : List Char}
    {authority : Option Authority} {segments : List String}
    (hhost : ∀ name ∈ host, IsHostText name.render.toList)
    (hunbroken : ∀ c ∈ text, isBreak c = false)
    (h : filePath host text = (authority, .rooted segments)) :
    NormalHierarchy scheme .file authority segments := by
  have hwalk : (Walk.along .file text).Of (IsSegment .file) :=
    Walk.along_isSegment fun _ => hunbroken
  unfold filePath at h
  simp only [Prod.mk.injEq] at h
  obtain ⟨rfl, hpath⟩ := h
  have hkept : ∀ name ∈ (if (Walk.along .file text).onDrive then none else host),
      IsHostText name.render.toList := by
    split
    · exact fun found h => absurd h (by simp)
    · exact hhost
  rw [Path.rooted.injEq] at hpath
  split at hpath
  · rw [← hpath]
    have hempty := List.forall_mem_singleton.mpr (isSegment_empty .file)
    exact .file hkept ⟨List.cons_ne_nil _ _, hempty, fun _ => rfl⟩
  next hne =>
    have hsub := (List.dropWhile_sublist (l := (Walk.along .file text).names.reverse)
      String.isEmpty).subset
    rw [← hpath]
    refine .file hkept ⟨hne, fun segment hsegment => ?_, fun hempty => ?_⟩
    · exact hwalk segment (List.mem_reverse.mp (hsub hsegment))
    · exact absurd hempty head?_dropWhile_ne_empty

/-! ### Whole URLs -/

theorem normal_hierarchy {scheme : String} {ends : Bool} {text : List Char}
    {authority : Option Authority} {segments : List String}
    (hunbroken : ∀ c ∈ text, isBreak c = false)
    (h : hierarchy scheme ends text = .ok (authority, .rooted segments)) :
    NormalHierarchy scheme (SchemeKind.ofName scheme) authority segments := by
  unfold hierarchy at h
  split at h
  · next hkind =>
    rw [hkind]
    exact normal_of_authorityAndPath (by decide) h
  · next hkind =>
    rw [hkind]
    obtain ⟨host, rest, hfound, hsub, hhost⟩ := exists_of_fileAuthorityAndPath h
    exact normal_filePath hhost (fun c hc => hunbroken c (hsub hc)) hfound.symm
  · next hkind =>
    rw [hkind]
    split at h
    · exact normal_of_authorityAndPath (by decide) h
    · rw [Except.ok.injEq, Prod.mk.injEq, Path.rooted.injEq] at h
      rw [← h.1, ← h.2]
      exact .bare (segments_ne_nil _ _) (isSegment_of_mem_segments (by decide) _)
    · cases h

/-- A hierarchical URL without a fragment whose parts stay apart once they are written. -/
structure Normal (url : Url) : Prop where
  scheme : IsScheme url.scheme
  hierarchy : ∃ segments, url.path = .rooted segments ∧
    NormalHierarchy url.scheme (SchemeKind.ofName url.scheme) url.authority segments
  query : ∀ query ∈ url.query,
    MadeOf (fun c => queryClass (SchemeKind.ofName url.scheme) c = true) query
  fragment : url.fragment = none

namespace Normal

variable {url : Url}

/-- The parts before the query hold no mark of one. -/
theorem base (h : url.Normal) : MadeOf (fun c => Visible c ∧ c ≠ '?') url.renderBase := by
  obtain ⟨segments, hpath, hhierarchy⟩ := h.hierarchy
  refine madeOf_renderBase (by decide) (h.scheme.chars.mono fun c hc => ?_)
    (fun authority hauthority => ?_) ?_
  · refine ⟨visible_of_isSchemeChar hc.1, ?_⟩
    rintro rfl
    exact absurd hc.1 (by decide)
  · exact (hhierarchy.normal authority hauthority).madeOf_render
  · rw [hpath]
    refine Path.madeOf_render_rooted (by decide) fun segment hsegment => ?_
    refine (hhierarchy.isSegment segment hsegment).kept.mono fun c hc => ?_
    refine ⟨visible_of_keepsInPath hc.1, ?_⟩
    rintro rfl
    exact absurd hc.1 (by decide)

end Normal

theorem normal_of_parse {text : String} {url : Url} (h : parse text = .ok url)
    (hhierarchical : url.isHierarchical = true) (hfragment : url.fragment = none)
    (hunbroken : ∀ c ∈ text.toList, isBreak c = false) : url.Normal := by
  obtain ⟨before, fragment, base, query, rest, hhash, hquestion, hscheme, hhierarchy, hquery, -⟩ :=
    exists_of_parse h
  have hbefore : before ⊆ text.toList :=
    List.Subset.trans (subset_of_cut hhash).1 (trim_subset _ _)
  have hbase : base ⊆ text.toList := List.Subset.trans (subset_of_cut hquestion).1 hbefore
  have hsub : rest ⊆ text.toList := List.Subset.trans (subset_of_scheme? hscheme) hbase
  refine ⟨isScheme_of_scheme? hscheme, ?_, ?_, hfragment⟩
  · cases hpath : url.path with
    | rooted segments =>
      rw [hpath] at hhierarchy
      exact ⟨segments, rfl, normal_hierarchy (fun c hc => hunbroken c (hsub hc)) hhierarchy⟩
    | rootless text => simp [isHierarchical, hpath] at hhierarchical
  · intro text htext
    rw [hquery, Option.mem_def, Option.map_eq_some_iff] at htext
    obtain ⟨given, -, rfl⟩ := htext
    exact kept_encodeQuery _ given

end OAuthEndpoint.Url
