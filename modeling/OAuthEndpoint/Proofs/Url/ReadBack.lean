import OAuthEndpoint.Proofs.Url.Normal
import Mathlib.Data.List.Basic

/-! What is written of paths and authorities, read again.  Segments that are no steps come back as
they were (`segments_slashed`), and so does an authority if its host does
(`Authority.Normal.read_iff`): user info ends at the last `@`, a host at the first colon outside
brackets and a port where the path starts. -/

namespace OAuthEndpoint.Url

open Text

/-! ### Segments -/

namespace IsSegment

variable {kind : SchemeKind} {segment : String}

theorem visible (h : IsSegment kind segment) : ∀ c ∈ segment.toList, Visible c :=
  fun c hc => visible_of_keepsInPath (h.kept c hc).1

theorem unbroken_eq (h : IsSegment kind segment) : unbroken segment.toList = segment.toList :=
  unbroken_of_visible h.visible

theorem segmentName_eq (h : IsSegment kind segment) : segmentName segment.toList = segment := by
  rw [segmentName, Percent.encode_eq_self fun c hc => (h.kept c hc).1, String.ofList_toList]

end IsSegment

namespace Walk

variable {kind : SchemeKind}

/-- A walk along a path without steps goes down by each of its segments. -/
theorem along_eq_foldl {text : List Char} (h : ∀ segment ∈ split (isSlash kind) text,
      isDot (unbroken segment) = false ∧ isDoubleDot (unbroken segment) = false) :
    along kind text = (split (isSlash kind) text).foldl (down kind) start := by
  obtain ⟨before, last, hpieces⟩ :=
    List.eq_nil_or_concat _ |>.resolve_left (split_ne_nil (isSlash kind) text)
  rw [List.concat_eq_append] at hpieces
  rw [hpieces] at h
  have hlast := h last (by simp)
  have hsteps : before.foldl (step kind) start = before.foldl (down kind) start := by
    refine List.foldl_ext _ _ _ fun walk segment hsegment => ?_
    have hstep := h segment (by simp [hsegment])
    simp [step, hstep.1, hstep.2]
  simp [along, hpieces, hsteps, finish, hlast.1, hlast.2]

theorem down_of_ne_nil {walk : Walk} {segment : String} (h : IsSegment kind segment)
    (hne : walk.names ≠ []) :
    walk.down kind segment.toList = { walk with names := segment :: walk.names } := by
  have hempty : walk.names.isEmpty = false := by simpa using hne
  simp [down, hempty, h.unbroken_eq, h.segmentName_eq]

/-- The first segment is kept too, except where it is a drive. -/
theorem down_start {segment : String} (h : IsSegment kind segment)
    (hdrive : kind = .file → isDrive segment.toList = false) :
    start.down kind segment.toList = ⟨[segment], false⟩ := by
  by_cases hfile : kind = .file
  · have hbroken := brokenDrive?_eq_none fun c hc => (h.visible c hc).isBreak_eq_false
    simp [down, start, hfile, h.unbroken_eq, h.segmentName_eq, hdrive hfile, hbroken]
  · simp [down, start, hfile, h.unbroken_eq, h.segmentName_eq]

theorem onDrive_down_start {segment : List Char} (hdrive : isDrive (unbroken segment) = true) :
    (start.down .file segment).onDrive = true := by
  simp [down, start, hdrive]

theorem foldl_down {walk : Walk} {segments : List String}
    (h : ∀ segment ∈ segments, IsSegment kind segment) (hne : walk.names ≠ []) :
    (segments.map String.toList).foldl (down kind) walk =
      { walk with names := segments.reverse ++ walk.names } := by
  induction segments generalizing walk with
  | nil => rfl
  | cons segment segments ih =>
    rw [List.map_cons, List.foldl_cons, down_of_ne_nil (h segment List.mem_cons_self) hne,
      ih (fun other hother => h other (List.mem_cons_of_mem _ hother)) (List.cons_ne_nil _ _)]
    simp

end Walk

/-- The text of segments after the first slash. -/
def slashed (segments : List String) : List Char := join ['/'] (segments.map String.toList)

theorem isSlash_slash (kind : SchemeKind) : isSlash kind '/' = true := by
  cases kind <;> decide

theorem split_slashed {kind : SchemeKind} {segments : List String} (hne : segments ≠ [])
    (h : ∀ segment ∈ segments, IsSegment kind segment) :
    split (isSlash kind) (slashed segments) = segments.map String.toList := by
  refine split_join (isSlash_slash kind) (by simpa using hne) fun piece hpiece => ?_
  obtain ⟨segment, hsegment, rfl⟩ := List.mem_map.mp hpiece
  exact fun c hc => ((h segment hsegment).kept c hc).2

theorem Walk.along_slashed {kind : SchemeKind} {first : String} {segments : List String}
    (h : ∀ segment ∈ first :: segments, IsSegment kind segment) :
    along kind (slashed (first :: segments)) =
      { Walk.start.down kind first.toList with
        names := segments.reverse ++ (Walk.start.down kind first.toList).names } := by
  have hsplit := split_slashed (List.cons_ne_nil first segments) h
  rw [along_eq_foldl, hsplit, List.map_cons, List.foldl_cons,
    foldl_down (fun segment hsegment => h segment (List.mem_cons_of_mem _ hsegment))
      names_down_ne_nil]
  intro piece hpiece
  rw [hsplit] at hpiece
  obtain ⟨segment, hsegment, rfl⟩ := List.mem_map.mp hpiece
  have hstep := h segment hsegment
  rw [hstep.unbroken_eq]
  exact ⟨hstep.notDot, hstep.notDoubleDot⟩

theorem Walk.along_slashed_of_not_drive {kind : SchemeKind} {first : String}
    {segments : List String} (h : ∀ segment ∈ first :: segments, IsSegment kind segment)
    (hdrive : kind = .file → isDrive first.toList = false) :
    along kind (slashed (first :: segments)) = ⟨(first :: segments).reverse, false⟩ := by
  rw [along_slashed h, down_start (h first List.mem_cons_self) hdrive, List.reverse_cons]

theorem segments_slashed {kind : SchemeKind} (hkind : kind ≠ .file) {segments : List String}
    (hne : segments ≠ []) (h : ∀ segment ∈ segments, IsSegment kind segment) :
    Url.segments kind (slashed segments) = segments := by
  obtain ⟨first, rest, rfl⟩ := List.exists_cons_of_ne_nil hne
  rw [Url.segments, Walk.along_slashed_of_not_drive h fun hfile => absurd hfile hkind,
    List.reverse_reverse]

/-- A step that stays at the start changes nothing. -/
theorem segments_dot {kind : SchemeKind} (text : List Char) :
    Url.segments kind ('.' :: '/' :: text) = Url.segments kind text := by
  have hsplit : split (isSlash kind) ('.' :: '/' :: text) =
      ['.'] :: split (isSlash kind) text := by
    rw [← List.singleton_append, split_append_sep _ (isSlash_slash kind),
      split_eq_self (List.forall_mem_singleton.mpr (by cases kind <;> decide))]
    rfl
  have hne := split_ne_nil (isSlash kind) text
  have hstay : Walk.start.step kind ['.'] = Walk.start := by
    cases kind <;> decide
  rw [Url.segments, Url.segments, Walk.along, Walk.along, hsplit]
  simp only [List.dropLast_cons_of_ne_nil hne, List.foldl_cons, hstay,
    List.getLast?_cons_of_ne_nil hne]

theorem toList_render_rooted {segments : List String} (hne : segments ≠ []) :
    (Path.rooted segments).render.toList = '/' :: slashed segments := by
  rw [Path.render, String.toList_join]
  induction segments with
  | nil => exact absurd rfl hne
  | cons first segments ih =>
    by_cases hnil : segments = []
    · simp [hnil, slashed, join]
    · have hmap : segments.map String.toList ≠ [] := by simpa using hnil
      have hrest := ih hnil
      simp only [List.map_cons, List.flatMap_cons] at hrest ⊢
      rw [hrest, slashed, slashed, List.map_cons, join_cons_of_ne_nil _ _ hmap]
      simp

/-! ### Slashes -/

theorem afterSlash?_cons (kind : SchemeKind) (text : List Char) :
    afterSlash? kind ('/' :: text) = some text := by
  have hslash : ¬isBreak '/' = true := by decide
  rw [afterSlash?, List.dropWhile_cons_of_neg hslash]
  simp [isSlash_slash]

theorem dropSlash_cons (kind : SchemeKind) (text : List Char) :
    dropSlash kind ('/' :: text) = text := by
  rw [dropSlash, afterSlash?_cons, Option.getD_some]

theorem pathAfterAuthority_render {kind : SchemeKind} (hkind : kind ≠ .file)
    {segments : List String} (hne : kind = .special → segments ≠ [])
    (h : ∀ segment ∈ segments, IsSegment kind segment) :
    pathAfterAuthority kind (Path.rooted segments).render.toList = .rooted segments := by
  by_cases hnil : segments = []
  · have hother : kind = .other := by
      cases kind with
      | special => exact absurd hnil (hne rfl)
      | file => exact absurd rfl hkind
      | other => rfl
    simp [pathAfterAuthority, hnil, hother, Path.render]
  · rw [toList_render_rooted hnil, pathAfterAuthority, dropSlash_cons,
      segments_slashed hkind hnil h]
    simp

/-! ### Authorities -/

/-- What ends a host. -/
def EndsHost (kind : SchemeKind) (rest : List Char) : Prop :=
  ∀ c ∈ rest.head?, c = ':' ∨ isSlash kind c = true

theorem hostText_of_endsHost {kind : SchemeKind} {rest : List Char} (h : EndsHost kind rest) :
    hostText kind false rest = ([], rest) := by
  cases rest with
  | nil => rfl
  | cons c rest => rcases h c rfl with hc | hc <;> simp [hostText, hc]

theorem hostText_name {kind : SchemeKind} {text rest : List Char} (hrest : EndsHost kind rest)
    (h : ∀ c ∈ text, forbiddenInHost c = false) :
    hostText kind false (text ++ rest) = (text, rest) := by
  induction text with
  | nil => exact hostText_of_endsHost hrest
  | cons c text ih =>
    have hc := h c List.mem_cons_self
    simp only [forbiddenInHost, Bool.or_eq_false_iff] at hc
    have hcolon : (c == ':') = false := by simp only [hc]
    have hslash : isSlash kind c = false := by simp [isSlash, hc]
    have hopens : (c == '[' || (false && c != ']')) = false := by simp [hc]
    rw [List.cons_append, hostText, hopens, ih fun d hd => h d (List.mem_cons_of_mem c hd)]
    simp only [hcolon, hslash, Bool.false_and, Bool.or_self, Bool.false_eq_true, if_false]

/-- Inside brackets a colon ends no host. -/
theorem hostText_address {kind : SchemeKind} {text rest : List Char} (hrest : EndsHost kind rest)
    (h : ∀ c ∈ text, isAddressChar c = true) :
    hostText kind true (text ++ ']' :: rest) = (text ++ [']'], rest) := by
  induction text with
  | nil => cases kind <;> simp [hostText, isSlash, hostText_of_endsHost hrest]
  | cons c text ih =>
    have hc : isSlash kind c = false ∧ (c != ']') = true :=
      of_isAddressChar (P := fun c => isSlash kind c = false ∧ (c != ']') = true)
        (by cases kind <;> decide) (h c List.mem_cons_self)
    rw [List.cons_append, hostText, hc.2, Bool.true_and, Bool.or_true,
      ih fun d hd => h d (List.mem_cons_of_mem c hd)]
    simp [hc.1]

theorem hostText_append {kind : SchemeKind} {text rest : List Char} (h : IsHostText text)
    (hrest : EndsHost kind rest) : hostText kind false (text ++ rest) = (text, rest) := by
  cases h with
  | name _ hfree => exact hostText_name hrest fun c hc => (hfree c hc).2
  | address address =>
    have hchars : ∀ c ∈ address.render.toList, isAddressChar c = true := isAddressChar_of_mem
    have hinside := hostText_address hrest hchars
    rw [List.cons_append, List.cons_append, List.append_assoc, List.singleton_append, hostText]
    cases kind <;> simp [isSlash, hinside]

/-- A port as it is written. -/
def portText (number : Option UInt16) : List Char :=
  ((number.map fun port => ":" ++ toString port).getD "").toList

theorem portText_some (number : UInt16) :
    portText (some number) = ':' :: Nat.toDigits 10 number.toNat := by
  have hnumber : toString number = toString number.toNat := rfl
  simp [portText, hnumber]

theorem port_portText {scheme : String} {number : Option UInt16} {rest : List Char}
    (hdefault : ∀ found ∈ number, some found ≠ defaultPort? scheme)
    (hrest : ∀ c ∈ rest.head?, c = '/') :
    port scheme (portText number ++ rest) = .ok (number, rest) := by
  cases number with
  | none =>
    refine port_of_ne_colon fun hcolon => ?_
    exact absurd (hrest ':' hcolon) (by decide)
  | some number =>
    have hdigits : ∀ c ∈ Nat.toDigits 10 number.toNat, c.isDigit = true :=
      isDigit_of_mem_toDigits
    have hstop : ∀ c ∈ rest.head?, c.isDigit = false := fun c hc => by
      rw [hrest c hc]
      decide
    have hspan := span_append hdigits hstop
    have hne := Nat.toDigits_ne_nil (b := 10) (n := number.toNat)
    have hsmall : ¬number.toNat > 65535 := by
      have := number.toNat_lt
      omega
    have hend : rest = [] ∨ rest.head? = some '/' := by
      cases rest with
      | nil => exact .inl rfl
      | cons c rest => exact .inr (congrArg some (hrest c rfl))
    rw [portText_some, List.cons_append, port]
    simp only [hspan.1, hspan.2, numeral_toDigits, if_neg hsmall, UInt16.ofNat_toNat]
    rcases hend with rfl | hend
    · simp [hne, hdefault number rfl]
    · simp [hne, hdefault number rfl, hend]

theorem atLastAt?_append {info host : List Char} (h : ∀ c ∈ host, (c == '@') = false) :
    atLastAt? (info ++ '@' :: host) = some (info, host) := by
  have hreverse : (info ++ '@' :: host).reverse = host.reverse ++ '@' :: info.reverse := by simp
  rw [atLastAt?, hreverse, cut_append_cons (fun c hc => h c (List.mem_reverse.mp hc)) (by decide)]
  simp

theorem atLastAt?_eq_none {text : List Char} (h : ∀ c ∈ text, (c == '@') = false) :
    atLastAt? text = none := by
  rw [atLastAt?, cut_eq_self fun c hc => h c (List.mem_reverse.mp hc)]

/-- User info that is written is what stands before `@`, with a colon before the password. -/
theorem exists_of_renderUserinfo {authority : Authority}
    (husername : MadeOf (fun c => Percent.keepsInUserinfo c = true) authority.username)
    (hpassword : MadeOf (fun c => Percent.keepsInUserinfo c = true) authority.password)
    (hne : ¬(authority.username = "" ∧ authority.password = "")) :
    ∃ info, info ≠ [] ∧ authority.renderUserinfo.toList = info ++ ['@'] ∧
      (∀ c ∈ info, ∀ kind, isSlash kind c = false) ∧
      (cut (· == ':') info).1 = authority.username.toList ∧
      (cut (· == ':') info).2.getD [] = authority.password.toList := by
  have hname : ∀ c ∈ authority.username.toList, (c == ':') = false := fun c hc =>
    beq_eq_false_iff_ne.mpr (isAuthorityChar_of_keepsInUserinfo (husername c hc)).2
  have hslash : ∀ {c}, Percent.keepsInUserinfo c = true → ∀ kind, isSlash kind c = false :=
    fun hkept _ => isSlash_of_isAuthorityChar (isAuthorityChar_of_keepsInUserinfo hkept).1
  by_cases hsecret : authority.password = ""
  · have hpresent : ¬authority.username = "" := fun hempty => hne ⟨hempty, hsecret⟩
    refine ⟨authority.username.toList, by simpa using hpresent, ?_,
      fun c hc => hslash (husername c hc), ?_, ?_⟩
    · simp [Authority.renderUserinfo, hsecret, hpresent]
    · rw [cut_eq_self hname]
    · rw [cut_eq_self hname, hsecret]
      rfl
  · refine ⟨authority.username.toList ++ ':' :: authority.password.toList, by simp, ?_, ?_, ?_, ?_⟩
    · simp [Authority.renderUserinfo, hsecret]
    · intro c hc kind
      rw [List.mem_append, List.mem_cons] at hc
      rcases hc with hc | rfl | hc
      · exact hslash (husername c hc) kind
      · cases kind <;> decide
      · exact hslash (hpassword c hc) kind
    · rw [cut_append_cons hname (by decide)]
    · rw [cut_append_cons hname (by decide), Option.getD_some]

theorem userinfo_render {kind : SchemeKind} {ends : Bool} {authority : Authority}
    (husername : MadeOf (fun c => Percent.keepsInUserinfo c = true) authority.username)
    (hpassword : MadeOf (fun c => Percent.keepsInUserinfo c = true) authority.password)
    {host path : List Char} (hhost : ∀ c ∈ host, isAuthorityChar c = true)
    (hpath : ∀ c ∈ path.head?, c = '/') :
    userinfo kind ends (authority.renderUserinfo.toList ++ (host ++ path)) =
      .ok (authority.username, authority.password, host ++ path) := by
  have hat : ∀ c ∈ host, (c == '@') = false := fun c hc => by
    have := hhost c hc
    simp only [isAuthorityChar, Bool.not_eq_true', Bool.or_eq_false_iff] at this
    exact this.2
  have hend : ∀ c ∈ path.head?, (!isSlash kind c) = false := fun c hc => by
    rw [hpath c hc, isSlash_slash, Bool.not_true]
  have hwhole : ∀ c ∈ host, (!isSlash kind c) = true := fun c hc => by
    rw [isSlash_of_isAuthorityChar (hhost c hc), Bool.not_false]
  -- Without user info no `@` is written, and with it the one after it is the last.
  by_cases hempty : authority.username = "" ∧ authority.password = ""
  · have hspan := span_append hwhole hend
    have hinfo : authority.renderUserinfo.toList = [] := by
      rw [Authority.renderUserinfo, if_pos hempty, String.toList_empty]
    rw [hinfo, List.nil_append, userinfo]
    simp only [hspan.1, atLastAt?_eq_none hat, hempty.1, hempty.2]
  · obtain ⟨info, hne, hinfo, hslash, hname, hsecret⟩ :=
      exists_of_renderUserinfo husername hpassword hempty
    have hbefore : ∀ c ∈ info ++ '@' :: host, (!isSlash kind c) = true := by
      intro c hc
      rw [List.mem_append, List.mem_cons] at hc
      rcases hc with hc | rfl | hc
      · rw [hslash c hc kind, Bool.not_false]
      · cases kind <;> decide
      · exact hwhole c hc
    have hspan := span_append hbefore hend
    have htext : authority.renderUserinfo.toList ++ (host ++ path) =
        info ++ '@' :: host ++ path := by rw [hinfo]; simp
    obtain ⟨c, rest, rfl⟩ := List.exists_cons_of_ne_nil hne
    rw [htext, userinfo]
    simp only [hspan.1, hspan.2, atLastAt?_append hat, hname, hsecret,
      Percent.encode_eq_self husername, Percent.encode_eq_self hpassword, String.ofList_toList]

/-- A host as an authority is written with it. -/
def Authority.hostPart (authority : Authority) : List Char :=
  ((authority.host.map Host.render).getD "").toList

theorem Authority.toList_render (authority : Authority) :
    authority.render.toList = '/' :: '/' :: (authority.renderUserinfo.toList ++
      (authority.hostPart ++ portText authority.port)) := by
  simp [Authority.render, Authority.hostPart, portText]

/-- A host that is read as itself. -/
def Host.Stable (kind : SchemeKind) (host : Host) : Prop :=
  Url.host kind host.render.toList [] = .ok (some host)

/-- What follows a host matters only where there is none. -/
theorem host_eq_some_iff {kind : SchemeKind} {text rest : List Char} {found : Host} :
    host kind text rest = .ok (some found) ↔ host kind text [] = .ok (some found) := by
  cases kind with
  | other =>
    simp only [host, bind_eq_ok_iff]
    refine exists_congr fun plain => and_congr_right fun _ => ?_
    cases plain with
    | none => by_cases hcolon : rest.head? = some ':' <;> simp [hcolon]
    | some plain => simp
  | special => rfl
  | file => rfl

namespace Authority

variable {scheme : String} {kind : SchemeKind} {authority : Authority} {path : List Char}

theorem endsHost_port (hpath : ∀ c ∈ path.head?, c = '/') :
    EndsHost kind (portText authority.port ++ path) := by
  intro c hc
  cases hport : authority.port with
  | none =>
    rw [hport] at hc
    exact .inr (hpath c hc ▸ isSlash_slash kind)
  | some number =>
    rw [hport, portText_some] at hc
    exact .inl (Option.some.inj hc).symm

theorem Normal.isAuthorityChar (h : authority.Normal scheme) :
    ∀ c ∈ authority.hostPart ++ portText authority.port, isAuthorityChar c = true := by
  intro c hc
  rcases List.mem_append.mp hc with hc | hc
  · cases hhost : authority.host with
    | none => simp [hostPart, hhost] at hc
    | some host =>
      rw [hostPart, hhost] at hc
      exact (h.host host hhost).isAuthorityChar c hc
  · cases hport : authority.port with
    | none => simp [portText, hport] at hc
    | some number =>
      rw [hport, portText_some, List.mem_cons] at hc
      rcases hc with rfl | hc
      · decide
      · exact of_mem_toDigits (P := fun c => Url.isAuthorityChar c = true) (by decide) (by decide)
          number.toNat c hc

theorem Normal.hostText_hostPart (h : authority.Normal scheme)
    (hpath : ∀ c ∈ path.head?, c = '/') :
    hostText kind false (authority.hostPart ++ (portText authority.port ++ path)) =
      (authority.hostPart, portText authority.port ++ path) := by
  cases hhost : authority.host with
  | none =>
    have hnone : authority.hostPart = [] := by simp [hostPart, hhost]
    rw [hnone]
    exact hostText_of_endsHost (endsHost_port hpath)
  | some host =>
    have hsome : authority.hostPart = host.render.toList := by simp [hostPart, hhost]
    rw [hsome]
    exact hostText_append (h.host host hhost) (endsHost_port hpath)

/-- An absent host is read as absent, and any other as itself where it is stable. -/
theorem Normal.host_hostPart_iff (h : authority.Normal scheme)
    (hother : authority.host = none → kind = .other) (hpath : ∀ c ∈ path.head?, c = '/') :
    Url.host kind authority.hostPart (portText authority.port ++ path) = .ok authority.host ↔
      ∀ found ∈ authority.host, found.Stable kind := by
  cases hhost : authority.host with
  | none =>
    have hrest : path.head? ≠ some ':' := fun hcolon => absurd (hpath ':' hcolon) (by decide)
    have hplain : Host.parsePlain [] = .ok none := rfl
    have hnone : authority.hostPart = [] := by simp [hostPart, hhost]
    have hport : portText authority.port = [] := by simp [portText, (h.hostless hhost).2.2]
    simp [hother hhost, hnone, hport, Url.host, hplain, hrest, bind, Except.bind]
  | some found =>
    have hsome : authority.hostPart = found.render.toList := by simp [hostPart, hhost]
    rw [hsome, host_eq_some_iff]
    simp [Host.Stable]

/-- An authority that is written is read as itself, if its host is. -/
theorem Normal.read_iff (h : authority.Normal scheme)
    (hother : authority.host = none → kind = .other) (hpath : ∀ c ∈ path.head?, c = '/')
    {ends : Bool} {result : Path} :
    authorityAndPath scheme kind ends (authority.renderUserinfo.toList ++
        (authority.hostPart ++ portText authority.port ++ path)) = .ok (some authority, result) ↔
      (∀ found ∈ authority.host, found.Stable kind) ∧ pathAfterAuthority kind path = result := by
  rw [← h.host_hostPart_iff hother hpath, authorityAndPath,
    userinfo_render h.username h.password h.isAuthorityChar hpath, List.append_assoc]
  simp only [bind, Except.bind, h.hostText_hostPart hpath, port_portText h.port hpath]
  cases hread : Url.host kind authority.hostPart (portText authority.port ++ path) with
  | error fault => simp
  | ok found =>
    by_cases hempty : (found.isNone &&
        !(authority.username.isEmpty && authority.password.isEmpty)) = true
    · have hne : found ≠ authority.host := by
        rintro rfl
        rw [Bool.and_eq_true, Option.isNone_iff_eq_none] at hempty
        obtain ⟨husername, hpassword, -⟩ := h.hostless hempty.1
        simp [husername, hpassword] at hempty
      simp only [hempty, if_true, reduceCtorEq, Except.ok.injEq, hne, false_and]
    · obtain ⟨username, password, hosted, number⟩ := authority
      simp only at hempty
      simp only [hempty, Bool.false_eq_true, if_false, Except.ok.injEq, Prod.mk.injEq,
        Option.some.injEq, Authority.mk.injEq, true_and, and_true]

end Authority

end OAuthEndpoint.Url
