import OAuthEndpoint.Proofs.Url.ReadBack

/-! URLs that are read as they are written.  What is written of a URL in normal form is taken apart as
it was put together, so that only its host can be read differently (`Normal.parse_render_iff`).  So
reading a text and writing the URL gives the text back exactly where a canonical URL is written as it
(`render_eq_iff`). -/

namespace OAuthEndpoint.Url

open Text

/-! ### Files -/

theorem isDrive_hostText {text : List Char} (h : IsHostText text) : isDrive text = false := by
  refine Bool.eq_false_iff.mpr fun hdrive => ?_
  obtain ⟨letter, mark, rfl, halpha, hmark⟩ := exists_of_isDrive hdrive
  generalize htext : [letter, mark] = text at h
  cases h with
  | name _ hfree =>
    subst htext
    have hmem := (hfree mark (by simp)).2
    rcases hmark with rfl | rfl <;> exact absurd hmem (by decide)
  | address address =>
    obtain rfl : letter = '[' := (List.cons.inj htext).1
    exact absurd halpha (by decide)

theorem fileHost_slash (rest : List Char) : fileHost ('/' :: rest) = .ok (none, '/' :: rest) := rfl

theorem fileHost_name {name rest : List Char} (h : IsHostText name) :
    fileHost (name ++ '/' :: rest) = (Host.parse name).map fun parsed =>
      if parsed = .domain "localhost" then (none, '/' :: rest) else (some parsed, rest) := by
  have hwhole : ∀ c ∈ name, (!isSlash .file c) = true := fun c hc => by
    rw [isSlash_of_isAuthorityChar (h.isAuthorityChar c hc), Bool.not_false]
  have hstop : ∀ c ∈ ('/' :: rest).head?, (!isSlash .file c) = false := by simp [isSlash]
  have hspan := span_append hwhole hstop
  have hne : name.isEmpty = false := by simpa using h.ne_nil
  rw [fileHost]
  simp only [hspan.1, hspan.2, unbroken_of_visible h.visible, isDrive_hostText h, hne,
    dropSlash_cons, Bool.false_eq_true, if_false, bind, Except.bind]
  cases hparse : Host.parse name with
  | error fault => rfl
  | ok parsed =>
    simp only [Except.map]
    split
    · rfl
    · next hlocal =>
      rw [if_neg hlocal]

/-- The path of a file that is written, after its first slash. -/
theorem filePath_of_along {host : Option Host} {text : List Char} {walk : Walk}
    {segments : List String} (hne : segments ≠ [])
    (hfirst : segments.head? = some "" → segments = [""]) (hwalk : Walk.along .file text = walk)
    (hnames : walk.names.reverse.dropWhile String.isEmpty = segments.dropWhile String.isEmpty) :
    filePath host text =
      (some ⟨"", "", if walk.onDrive then none else host, none⟩, .rooted segments) := by
  rw [filePath, hwalk, hnames]
  simp only [Prod.mk.injEq, Path.rooted.injEq, true_and]
  obtain ⟨first, rest, rfl⟩ := List.exists_cons_of_ne_nil hne
  by_cases hempty : first = ""
  · subst hempty
    rw [hfirst rfl]
    rfl
  · have hkept : ¬first.isEmpty = true := by simpa using hempty
    rw [List.dropWhile_cons_of_neg hkept]

theorem filePath_slash {segments : List String} (h : IsFilePath segments) (host : Option Host) :
    filePath host ('/' :: slashed segments) = (some ⟨"", "", host, none⟩, .rooted segments) := by
  have htext : '/' :: slashed segments = slashed ("" :: segments) := by
    have hmap : segments.map String.toList ≠ [] := by simpa using h.ne_nil
    rw [slashed, slashed, List.map_cons, join_cons_of_ne_nil _ _ hmap]
    rfl
  have hsegments := List.forall_mem_cons.mpr ⟨isSegment_empty .file, h.isSegment⟩
  rw [htext, filePath_of_along h.ne_nil h.first
    (Walk.along_slashed_of_not_drive hsegments fun _ => by decide) (by simp)]
  rfl

theorem filePath_slashed {segments : List String} (h : IsFilePath segments)
    (hdrive : ∀ first ∈ segments.head?, isDrive first.toList = false) (host : Option Host) :
    filePath host (slashed segments) = (some ⟨"", "", host, none⟩, .rooted segments) := by
  obtain ⟨first, rest, rfl⟩ := List.exists_cons_of_ne_nil h.ne_nil
  rw [filePath_of_along h.ne_nil h.first
    (Walk.along_slashed_of_not_drive h.isSegment fun _ => hdrive first rfl) (by simp)]
  rfl

/-- A drive takes the place of the host. -/
theorem filePath_drive {segments : List String} (h : IsFilePath segments) {first : String}
    (hfirst : first ∈ segments.head?) (hdrive : isDrive first.toList = true)
    (host : Option Host) : (filePath host (slashed segments)).1 = some ⟨"", "", none, none⟩ := by
  obtain ⟨only, rest, rfl⟩ := List.exists_cons_of_ne_nil h.ne_nil
  obtain rfl : only = first := Option.some.inj hfirst
  have honDrive : (Walk.start.down .file only.toList).onDrive = true := by
    refine Walk.onDrive_down_start ?_
    rwa [(h.isSegment only List.mem_cons_self).unbroken_eq]
  simp [filePath, Walk.along_slashed h.isSegment, honDrive]

/-- What a host must be for a URL to be read as it is written: stable and, in a file, no name that is
the same as no host and before no drive. -/
def Host.ReadsBack (kind : SchemeKind) (segments : List String) (host : Host) : Prop :=
  host.Stable kind ∧ (kind = .file → host ≠ .domain "localhost" ∧
    ∀ first ∈ segments.head?, isDrive first.toList = false)

theorem stable_iff {kind : SchemeKind} (hkind : kind ≠ .other) {host : Host}
    (h : IsHostText host.render.toList) :
    host.Stable kind ↔ Host.parse host.render.toList = .ok host := by
  have hne : host.render.toList.isEmpty = false := by simpa using h.ne_nil
  have hread : ∀ text : Except Fault Host, text.map some = .ok (some host) ↔ text = .ok host := by
    intro text
    cases text <;> simp [Except.map]
  cases kind with
  | other => exact absurd rfl hkind
  | special =>
    simp only [Host.Stable, Url.host, hne, Bool.false_eq_true, if_false]
    exact hread _
  | file =>
    simp only [Host.Stable, Url.host, hne, Bool.false_eq_true, if_false]
    exact hread _

theorem file_read_iff {host : Option Host} {segments : List String}
    (hhost : ∀ name ∈ host, IsHostText name.render.toList) (h : IsFilePath segments) :
    fileAuthorityAndPath ('/' :: '/' ::
        (((host.map Host.render).getD "").toList ++ '/' :: slashed segments)) =
        .ok (some ⟨"", "", host, none⟩, .rooted segments) ↔
      ∀ name ∈ host, name.ReadsBack .file segments := by
  rw [fileAuthorityAndPath, afterSlash?_cons]
  simp only [afterSlash?_cons]
  cases host with
  | none => simp [fileHost_slash, filePath_slash h, bind, Except.bind, pure, Except.pure]
  | some name =>
    have hname := hhost name rfl
    simp only [Option.map_some, Option.getD_some, fileHost_name hname, Option.mem_some_iff,
      forall_eq', Host.ReadsBack, true_imp_iff,
      stable_iff (by decide : SchemeKind.file ≠ .other) hname]
    cases hparse : Host.parse name.render.toList with
    | error fault => simp [Except.map, bind, Except.bind]
    | ok parsed =>
      simp only [Except.map, bind, Except.bind, pure, Except.pure, Except.ok.injEq]
      -- Both `localhost` and a drive at the start of the path take the host away.
      by_cases hlocal : parsed = .domain "localhost"
      · rw [if_pos hlocal]
        simp only [filePath_slash h, Prod.mk.injEq, Option.some.injEq, Authority.mk.injEq,
          reduceCtorEq, and_false, false_and, false_iff]
        rintro ⟨rfl, hother, -⟩
        exact hother hlocal
      · rw [if_neg hlocal]
        by_cases hdrive : ∀ first ∈ segments.head?, isDrive first.toList = false
        · rw [filePath_slashed h hdrive]
          simp only [Prod.mk.injEq, Option.some.injEq, Authority.mk.injEq, true_and, and_true]
          exact ⟨fun heq => ⟨heq, heq ▸ hlocal, hdrive⟩, fun heq => heq.1⟩
        · refine iff_of_false (fun heq => ?_) fun hall => hdrive hall.2.2
          obtain ⟨first, hfirst, hdrive⟩ :
              ∃ first ∈ segments.head?, isDrive first.toList = true := by simpa using hdrive
          have hnone := filePath_drive h hfirst hdrive (some parsed)
          rw [heq] at hnone
          simp at hnone

/-! ### Hierarchies -/

theorem hierarchy_special {scheme : String} {ends : Bool} {text : List Char}
    (hkind : SchemeKind.ofName scheme = .special)
    (hunbroken : unbroken ('/' :: '/' :: text) = '/' :: '/' :: text)
    (hfirst : ∀ c ∈ text.head?, isSlash .special c = false) :
    hierarchy scheme ends ('/' :: '/' :: text) = authorityAndPath scheme .special ends text := by
  have hslashes : ('/' :: '/' :: text).dropWhile (isSlash .special) = text := by
    rw [List.dropWhile_cons_of_pos (isSlash_slash _), List.dropWhile_cons_of_pos (isSlash_slash _),
      dropWhile_eq_self hfirst]
  simp only [hierarchy, hkind, hunbroken, hslashes]

theorem hierarchy_other {scheme : String} {ends : Bool} {text : List Char}
    (hkind : SchemeKind.ofName scheme = .other)
    (hunbroken : unbroken ('/' :: '/' :: text) = '/' :: '/' :: text) :
    hierarchy scheme ends ('/' :: '/' :: text) = authorityAndPath scheme .other ends text := by
  simp only [hierarchy, hkind, hunbroken]

theorem hierarchy_bare {scheme : String} {ends : Bool} {text : List Char}
    (hkind : SchemeKind.ofName scheme = .other) (hunbroken : unbroken ('/' :: text) = '/' :: text)
    (hfirst : text.head? ≠ some '/') :
    hierarchy scheme ends ('/' :: text) = .ok (none, .rooted (segments .other text)) := by
  simp only [hierarchy, hkind, hunbroken]
  split
  · next rest heq =>
    rw [(List.cons.inj heq).2] at hfirst
    exact absurd rfl hfirst
  · next rest _ heq => rw [(List.cons.inj heq).2]
  · next hnot => exact absurd rfl (hnot text)

/-- What is written between the scheme and the query. -/
def hierarchyText (url : Url) : List Char := (url.renderAuthority ++ url.path.render).toList

theorem Normal.visible_hierarchyText {url : Url} (h : url.Normal) :
    ∀ c ∈ url.hierarchyText, Visible c := by
  intro c hc
  have hmem : c ∈ url.renderBase.toList := by
    rw [renderBase, String.append_assoc, String.toList_append]
    exact List.mem_append_right _ hc
  exact (h.base c hmem).1

theorem hierarchyText_of_authority {url : Url} {authority : Authority}
    (h : url.authority = some authority) :
    url.hierarchyText = '/' :: '/' :: (authority.renderUserinfo.toList ++
      (authority.hostPart ++ portText authority.port ++ url.path.render.toList)) := by
  simp [hierarchyText, renderAuthority, h, Authority.toList_render]

theorem head?_slashed_ne_slash {kind : SchemeKind} {first : String} {rest : List String}
    (hfirst : IsSegment kind first) (h : first = "" → rest = []) :
    (slashed (first :: rest)).head? ≠ some '/' := by
  by_cases hempty : first = ""
  · simp [h hempty, hempty, slashed, join]
  · have hne : first.toList ≠ [] := fun hnil => hempty (String.toList_eq_nil_iff.mp hnil)
    obtain ⟨c, chars, hchars⟩ := List.exists_cons_of_ne_nil hne
    have hstart : ∃ more, slashed (first :: rest) = c :: more := by
      rw [slashed, List.map_cons, hchars]
      cases rest.map String.toList with
      | nil => exact ⟨chars, rfl⟩
      | cons second more => exact ⟨_, rfl⟩
    obtain ⟨more, hmore⟩ := hstart
    have hkept := (hfirst.kept c (hchars ▸ List.mem_cons_self)).2
    rw [hmore, List.head?_cons, ne_eq, Option.some.injEq]
    rintro rfl
    rw [isSlash_slash] at hkept
    cases hkept

/-- Without an authority, what is written after the first slash starts with no second one. -/
theorem exists_of_bare {url : Url} {segments : List String} (hauthority : url.authority = none)
    (hpath : url.path = .rooted segments) (hne : segments ≠ [])
    (hsegments : ∀ segment ∈ segments, IsSegment .other segment) :
    ∃ text, url.hierarchyText = '/' :: text ∧ text.head? ≠ some '/' ∧
      Url.segments .other text = segments := by
  have hread := segments_slashed (by decide : SchemeKind.other ≠ .file) hne hsegments
  have hrender := toList_render_rooted hne
  obtain ⟨first, rest, rfl⟩ := List.exists_cons_of_ne_nil hne
  by_cases hdot : first = "" ∧ rest ≠ []
  · obtain ⟨second, more, rfl⟩ := List.exists_cons_of_ne_nil hdot.2
    obtain rfl := hdot.1
    refine ⟨'.' :: '/' :: slashed ("" :: second :: more), ?_, by simp, ?_⟩
    · simp [hierarchyText, renderAuthority, hauthority, hpath, hrender]
    · rw [segments_dot, hread]
  · have hnothing : url.renderAuthority = "" := by
      rw [renderAuthority, hauthority, hpath]
      split
      · next heq => cases heq
      · next heq =>
        cases heq
        exact absurd ⟨rfl, List.cons_ne_nil _ _⟩ hdot
      · rfl
    have hempty : first = "" → rest = [] := fun hfirst =>
      Decidable.byContradiction fun hrest => hdot ⟨hfirst, hrest⟩
    refine ⟨slashed (first :: rest), ?_, ?_, hread⟩
    · simp [hierarchyText, hnothing, hpath, hrender]
    · exact head?_slashed_ne_slash (hsegments first List.mem_cons_self) hempty

/-- What follows the slashes of a URL of the web starts with no third one. -/
theorem Authority.Normal.isSlash_head? {scheme : String} {authority : Authority}
    (h : authority.Normal scheme) (hhost : authority.host ≠ none) (rest : List Char) :
    ∀ c ∈ (authority.renderUserinfo.toList ++
      (authority.hostPart ++ portText authority.port ++ rest)).head?,
      isSlash .special c = false := by
  obtain ⟨host, hhost⟩ := Option.ne_none_iff_exists'.mp hhost
  have hpart : authority.hostPart = host.render.toList := by simp [hostPart, hhost]
  have hne : authority.renderUserinfo.toList ++ authority.hostPart ≠ [] := by
    rw [hpart]
    exact List.append_ne_nil_of_right_ne_nil _ (h.host host hhost).ne_nil
  have hkept : ∀ c, Percent.keepsInUserinfo c = true → isSlash .special c = false := fun c hc =>
    isSlash_of_isAuthorityChar (isAuthorityChar_of_keepsInUserinfo hc).1
  have huserinfo : MadeOf (fun c => isSlash .special c = false) authority.renderUserinfo :=
    Authority.madeOf_renderUserinfo (by decide) (h.username.mono hkept) (h.password.mono hkept)
  intro c hc
  rw [List.append_assoc, ← List.append_assoc, List.head?_append_of_ne_nil _ hne] at hc
  rcases List.mem_append.mp (List.mem_of_mem_head? hc) with hmem | hmem
  · exact huserinfo c hmem
  · rw [hpart] at hmem
    exact isSlash_of_isAuthorityChar ((h.host host hhost).isAuthorityChar c hmem)

theorem hierarchy_read_iff {url : Url} {kind : SchemeKind} {segments : List String} (h : url.Normal)
    (hkind : SchemeKind.ofName url.scheme = kind) (hpath : url.path = .rooted segments)
    (hhierarchy : NormalHierarchy url.scheme kind url.authority segments) (ends : Bool) :
    hierarchy url.scheme ends url.hierarchyText = .ok (url.authority, url.path) ↔
      ∀ authority ∈ url.authority, ∀ host ∈ authority.host, host.ReadsBack kind segments := by
  have hunbroken := unbroken_of_visible h.visible_hierarchyText
  have hhead : ∀ c ∈ url.path.render.toList.head?, c = '/' := by
    rw [hpath]
    by_cases hnil : segments = []
    · simp [hnil, Path.render]
    · simp [toList_render_rooted hnil]
  generalize hfound : url.authority = found at hhierarchy
  cases hhierarchy with
  | special hauthority hhost hne hsegments =>
    rw [hierarchyText_of_authority hfound] at hunbroken ⊢
    rw [hierarchy_special hkind hunbroken (hauthority.isSlash_head? hhost _),
      hauthority.read_iff (fun hnone => absurd hnone hhost) hhead, hpath,
      pathAfterAuthority_render (by decide) (fun _ => hne) hsegments]
    simp [Host.ReadsBack]
  | file hhost hfile =>
    rw [hierarchyText_of_authority hfound, hpath, toList_render_rooted hfile.ne_nil]
    have hread := file_read_iff hhost hfile
    simpa [hierarchy, hkind, Authority.renderUserinfo, Authority.hostPart, portText] using hread
  | other hauthority hsegments =>
    rw [hierarchyText_of_authority hfound] at hunbroken ⊢
    rw [hierarchy_other hkind hunbroken, hauthority.read_iff (fun _ => rfl) hhead, hpath,
      pathAfterAuthority_render (by decide) (fun hspecial => absurd hspecial (by decide)) hsegments]
    simp [Host.ReadsBack]
  | bare hne hsegments =>
    obtain ⟨text, htext, hslash, hread⟩ := exists_of_bare hfound hpath hne hsegments
    rw [htext] at hunbroken ⊢
    rw [hierarchy_bare hkind hunbroken hslash, hread, hpath]
    simp

/-! ### Whole URLs -/

theorem lower_eq_self {text : String} (h : MadeOf (fun c => c.toLower = c) text) :
    lower text = text := by
  rw [lower, List.map_congr_left h, List.map_id', String.ofList_toList]

theorem scheme?_append {scheme : String} (h : IsScheme scheme) (rest : List Char) :
    scheme? (scheme.toList ++ ':' :: rest) = some (scheme, rest) := by
  have hcolon : ':' ∉ scheme.toList := fun hc => absurd (h.chars _ hc).1 (by decide)
  have hunbroken := unbroken_of_visible fun c hc => visible_of_isSchemeChar (h.chars c hc).1
  have hchars : scheme.toList.all isSchemeChar = true :=
    List.all_eq_true.mpr fun c hc => (h.chars c hc).1
  rw [scheme?, cut_append_cons (beq_eq_false_of_not_mem hcolon) (by decide)]
  simp only [hunbroken, h.letter, hchars, Bool.and_self, if_true, String.ofList_toList,
    lower_eq_self (h.chars.mono fun _ hc => hc.2)]

theorem encodeQuery_eq_self {kind : SchemeKind} {query : String}
    (h : MadeOf (fun c => queryClass kind c = true) query) :
    encodeQuery kind query.toList = query := by
  have hunbroken := unbroken_of_visible fun c hc =>
    visible_of_keepsInQuery (keepsInQuery_of_queryClass (h c hc))
  rw [encodeQuery, hunbroken]
  exact (congrArg String.ofList (Percent.encode_eq_self h)).trans String.ofList_toList

/-- A URL in normal form with a host that is read as itself. -/
structure Canonical (url : Url) : Prop where
  normal : url.Normal
  hosts : ∀ authority ∈ url.authority, ∀ host ∈ authority.host, ∀ segments,
    url.path = .rooted segments → host.ReadsBack (SchemeKind.ofName url.scheme) segments

theorem Normal.allVisible_render {url : Url} (h : url.Normal) : AllVisible url.render :=
  allVisible_render_of_base (h.base.mono fun _ hc => hc.1)
    (fun query hquery => (h.query query hquery).mono fun _ hc =>
      visible_of_keepsInQuery (keepsInQuery_of_queryClass hc)) h.fragment

theorem Visible.not_blank {c : Char} (h : Visible c) : decide (c ≤ ' ') = false :=
  forall_ascii (P := fun c => Visible c → decide (c ≤ ' ') = false) (by decide +kernel)
    h.lt_ascii h

/-- What is written of a URL is cut where its query was put. -/
theorem Normal.cut_render {url : Url} (h : url.Normal) :
    cut (· == '?') url.render.toList =
      (url.scheme.toList ++ ':' :: url.hierarchyText, url.query.map String.toList) := by
  have hbase : url.renderBase.toList = url.scheme.toList ++ ':' :: url.hierarchyText := by
    simp [renderBase, hierarchyText]
  have hfree : ∀ c ∈ url.renderBase.toList, (c == '?') = false := fun c hc =>
    beq_eq_false_iff_ne.mpr (h.base c hc).2
  rw [render, h.fragment, ← hbase]
  cases hquery : url.query with
  | none => simpa using cut_eq_self hfree
  | some query =>
    have hmark : (url.renderBase ++ ("?" ++ query)).toList =
        url.renderBase.toList ++ '?' :: query.toList := by simp
    have hcut : cut (· == '?') (url.renderBase.toList ++ '?' :: query.toList) =
        (url.renderBase.toList, some query.toList) := cut_append_cons hfree (by decide) _
    simpa [hmark] using hcut

/-- All that reading can change of what is written is what stands between scheme and query. -/
theorem Normal.parse_render {url : Url} (h : url.Normal) :
    parse url.render = (Url.hierarchy url.scheme url.query.isNone url.hierarchyText).map
      fun found => { url with authority := found.1, path := found.2 } := by
  have hvisible := h.allVisible_render
  have htrim : trim (fun c => decide (c ≤ ' ')) url.render.toList = url.render.toList :=
    trim_eq_self fun c hc => (hvisible c hc).not_blank
  have hhash : cut (· == '#') url.render.toList = (url.render.toList, none) :=
    cut_eq_self fun c hc => beq_eq_false_iff_ne.mpr (hvisible c hc).2.2
  have hquery : (url.query.map String.toList).map (encodeQuery (SchemeKind.ofName url.scheme)) =
      url.query := by
    cases hfound : url.query with
    | none => rfl
    | some query => simp [encodeQuery_eq_self (h.query query hfound)]
  rw [parse, htrim, hhash]
  simp only [h.cut_render, scheme?_append h.scheme, hquery, Option.isNone_map, Option.isNone_none,
    Bool.and_true, Option.map_none]
  cases Url.hierarchy url.scheme url.query.isNone url.hierarchyText with
  | error fault => rfl
  | ok found =>
    obtain ⟨scheme, authority, path, query, fragment⟩ := url
    obtain rfl := h.fragment
    rfl

/-- What is written of a URL in normal form is read as that URL exactly where it is canonical. -/
theorem Normal.parse_render_iff {url : Url} (h : url.Normal) :
    parse url.render = .ok url ↔ url.Canonical := by
  obtain ⟨segments, hpath, hhierarchy⟩ := h.hierarchy
  have hread := hierarchy_read_iff h rfl hpath hhierarchy url.query.isNone
  have hparse : parse url.render = .ok url ↔
      Url.hierarchy url.scheme url.query.isNone url.hierarchyText =
        .ok (url.authority, url.path) := by
    rw [h.parse_render]
    cases Url.hierarchy url.scheme url.query.isNone url.hierarchyText with
    | error fault => simp [Except.map]
    | ok found =>
      obtain ⟨authority, path⟩ := found
      obtain ⟨scheme, written, rooted, query, fragment⟩ := url
      simp [Except.map]
  rw [hparse, hread]
  constructor
  · intro hhosts
    refine ⟨h, fun authority hauthority host hhost other hother => ?_⟩
    obtain rfl : segments = other := Path.rooted.inj (hpath.symm.trans hother)
    exact hhosts authority hauthority host hhost
  · exact fun hcanonical authority hauthority host hhost =>
      hcanonical.hosts authority hauthority host hhost segments hpath

theorem Canonical.parse_render {url : Url} (h : url.Canonical) : parse url.render = .ok url :=
  h.normal.parse_render_iff.mpr h

/-- The texts that canonical URLs are written as. -/
def IsCanonicalText (text : String) : Prop := ∃ url : Url, url.Canonical ∧ url.render = text

/-- Reading and writing changes every text but the canonical ones. -/
theorem render_eq_iff {text : String} {url : Url} (h : parse text = .ok url)
    (hhierarchical : url.isHierarchical = true) (hfragment : url.fragment = none) :
    url.render = text ↔ IsCanonicalText text := by
  constructor
  · rintro rfl
    have hvisible := (written_of_parse h).allVisible_render hhierarchical hfragment
    have hnormal := normal_of_parse h hhierarchical hfragment
      fun c hc => (hvisible c hc).isBreak_eq_false
    exact ⟨url, hnormal.parse_render_iff.mp h, rfl⟩
  · rintro ⟨other, hcanonical, rfl⟩
    have hsame : other = url := Except.ok.inj (hcanonical.parse_render.symm.trans h)
    rw [hsame]

end OAuthEndpoint.Url
