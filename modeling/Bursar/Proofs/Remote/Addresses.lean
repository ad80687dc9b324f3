import Bursar.Console.Client
import Bursar.Proofs.Url.Places
import Bursar.Remote.Catalog

/-!
# Where requests go

The catalog is asked for the document of a content item, and the service for what a command is
about, at an address that is made of a base and of texts; the content item is named by whoever
asks. Such an address is always there, and it names the resource, text by text, exactly if every
text can be a segment of a path (`requests_name_resources_iff`). Then different content items
have different addresses. Of the others two may share one: a tab or the end of a line is dropped,
`.` and `..` are passed over, and with a tab behind it `..` leads one place up.
-/

namespace Bursar

variable {s : String} {base : Url}

theorem Uuid.nameable_toString (u : Uuid) : Url.Nameable u.toString where
  no_mark := by
    have hmark : ∀ c, Uuid.IsSign c → Url.isLineMark c = false := by
      rintro c (rfl | ⟨d, rfl⟩)
      · decide
      · revert d
        decide
    intro c hc
    rw [Uuid.toString, String.toList_ofList] at hc
    exact hmark c (Uuid.isSign_of_mem_toChars hc)
  not_here := by
    intro h
    have hlength := congrArg (fun t => t.toList.length) h
    simp [Uuid.toString, u.length_toChars] at hlength
  not_up := by
    intro h
    have hlength := congrArg (fun t => t.toList.length) h
    simp [Uuid.toString, u.length_toChars] at hlength

namespace Url

theorem kindOf_of_http (h : base.scheme = "http" ∨ base.scheme = "https") :
    kindOf base.scheme = .special := by
  rcases h with h | h <;> rw [h] <;> decide

theorem path_ofUrl (method : String) (url : Url) (token : Option String) (body : Option Json) :
    (Call.ofUrl method url token body).url.path = url.path := by
  unfold Call.ofUrl
  split <;> rfl

end Url

/-- **What a service is asked for is named, text by text**, exactly if each text can be a segment,
the path of the base is not two slashes and nothing else, and the first text is not an empty one
right behind the host. -/
theorem endpoint_names_iff (h : Url.parse s = .ok base) (hkind : Url.kindOf base.scheme = .special)
    (segments : List String) : ∃ path, endpoint base segments = .ok { base with path } ∧
      (path.Names base.path segments ↔ (∀ text ∈ segments, Url.Nameable text) ∧ base.path.toString ≠ "//" ∧
        (base.path.toString = "/" → segments.head? ≠ some "")) := by
  obtain ⟨path, hbelow, hnames⟩ := Url.below?_names_iff h hkind segments
  exact ⟨path, by rw [endpoint, hbelow], hnames⟩

namespace RemoteCatalog

variable {enterprise enterprise' : Uuid} {content content' : String}

theorem forall_nameable_segments_iff :
    (∀ text ∈ segments enterprise content, Url.Nameable text) ↔ Url.Nameable content := by
  have hfixed : Url.Nameable "api" ∧ Url.Nameable "v2" ∧ Url.Nameable "enterprise-customer" ∧
      Url.Nameable "content-metadata" := by decide
  simp [segments, hfixed, enterprise.nameable_toString]

/-- **The question for a document names the content item** exactly if that can be a segment and the
path of the base is not two slashes and nothing else. -/
theorem call_names_iff (h : Url.parse s = .ok base) (hkind : Url.kindOf base.scheme = .special)
    (token : Option String) (enterprise : Uuid) (content : String) :
    ∃ path, (RemoteCatalog.mk base token).call enterprise content =
        .ok (.ofUrl "GET" { base with path } token none) ∧
      (path.Names base.path (segments enterprise content) ↔
        Url.Nameable content ∧ base.path.toString ≠ "//") := by
  obtain ⟨path, hurl, hnames⟩ := endpoint_names_iff h hkind (segments enterprise content)
  refine ⟨path, by rw [call, hurl], ?_⟩
  rw [hnames, forall_nameable_segments_iff]
  simp [segments]

/-- **Different content items are asked for at different addresses**, if each can be a segment. -/
theorem call_injective (h : Url.parse s = .ok base) (hkind : Url.kindOf base.scheme = .special)
    {token : Option String} {c c' : Call} (hcontent : Url.Nameable content)
    (hcontent' : Url.Nameable content')
    (hcall : (RemoteCatalog.mk base token).call enterprise content = .ok c)
    (hcall' : (RemoteCatalog.mk base token).call enterprise' content' = .ok c')
    (hsame : c.url.path.toString = c'.url.path.toString) :
    enterprise = enterprise' ∧ content = content' := by
  obtain ⟨path, hbelow, -⟩ := Url.below?_names_iff h hkind (segments enterprise content)
  obtain ⟨path', hbelow', -⟩ := Url.below?_names_iff h hkind (segments enterprise' content')
  simp only [call, endpoint, hbelow, Except.ok.injEq] at hcall
  simp only [call, endpoint, hbelow', Except.ok.injEq] at hcall'
  rw [← hcall, ← hcall', Url.path_ofUrl, Url.path_ofUrl] at hsame
  have hsegments := Url.below?_injective h hkind (forall_nameable_segments_iff.mpr hcontent)
    (forall_nameable_segments_iff.mpr hcontent') (by simp [segments])
    (by simp [segments]) hbelow hbelow' hsame
  simp only [segments, List.cons.injEq, true_and, and_true] at hsegments
  exact ⟨Uuid.toString_injective hsegments.1, hsegments.2⟩

end RemoteCatalog

namespace Console.Client

/-- **What a command asks for is named** exactly if each text can be a segment and the path of the
base is not two slashes and nothing else. -/
theorem url_names_iff (h : Url.parse s = .ok base) (hkind : Url.kindOf base.scheme = .special)
    (token : Option String) (segments : List String) :
    ∃ path, (Client.mk base token).url segments = .ok { base with path } ∧
      (path.Names base.path (["api", "v1"] ++ segments) ↔
        (∀ text ∈ segments, Url.Nameable text) ∧ base.path.toString ≠ "//") := by
  have hfixed : Url.Nameable "api" ∧ Url.Nameable "v1" := by decide
  obtain ⟨path, hbelow, hnames⟩ := Url.below?_names_iff h hkind (["api", "v1"] ++ segments)
  refine ⟨path, by rw [url, hbelow], ?_⟩
  rw [hnames]
  simp [hfixed]

end Console.Client

/-- **Requests name what they are for**, exactly as far as texts can be segments of a path. Below a
base of HTTP there is an address for any texts, which is the base but for its path. This path stands
for the places of the base, but for an empty last one, then for the fixed texts and those given, one
by one, and ends in a slash, exactly if the texts hold no tab and no end of a line, none of them is
`.` or `..`, and the path of the base is not two slashes and nothing else; without fixed texts, the
first text must also not be an empty one right behind the host. No two such content items are asked
for at one path. -/
theorem requests_name_resources_iff (h : Url.parse s = .ok base)
    (hhttp : base.scheme = "http" ∨ base.scheme = "https") (token : Option String) :
    (∀ segments, ∃ path, endpoint base segments = .ok { base with path } ∧
      (path.Names base.path segments ↔ (∀ text ∈ segments, Url.Nameable text) ∧ base.path.toString ≠ "//" ∧
        (base.path.toString = "/" → segments.head? ≠ some ""))) ∧
    (∀ enterprise content, ∃ path, (RemoteCatalog.mk base token).call enterprise content =
        .ok (.ofUrl "GET" { base with path } token none) ∧
      (path.Names base.path (RemoteCatalog.segments enterprise content) ↔
        Url.Nameable content ∧ base.path.toString ≠ "//")) ∧
    (∀ segments, ∃ path, (Console.Client.mk base token).url segments = .ok { base with path } ∧
      (path.Names base.path (["api", "v1"] ++ segments) ↔
        (∀ text ∈ segments, Url.Nameable text) ∧ base.path.toString ≠ "//")) ∧
    (∀ enterprise enterprise' content content' c c', Url.Nameable content → Url.Nameable content' →
      (RemoteCatalog.mk base token).call enterprise content = .ok c →
      (RemoteCatalog.mk base token).call enterprise' content' = .ok c' →
      c.url.path.toString = c'.url.path.toString → enterprise = enterprise' ∧ content = content') := by
  have hkind := Url.kindOf_of_http hhttp
  refine ⟨endpoint_names_iff h hkind, RemoteCatalog.call_names_iff h hkind token,
    Console.Client.url_names_iff h hkind token, ?_⟩
  intro enterprise enterprise' content content' c c' hcontent hcontent' hcall hcall' hsame
  exact RemoteCatalog.call_injective h hkind hcontent hcontent' hcall hcall' hsame

/-- A base of HTTP without a path. -/
def catalogBase : Url where
  scheme := "http"
  username := ""
  password := none
  host := some "catalog.local"
  port := none
  isGuarded := false
  path := .slashed [[]]
  query := none
  fragment := none

theorem parse_catalogBase : Url.parse "http://catalog.local/" = .ok catalogBase := by
  rw [← toOption_eq_some_iff]
  decide +kernel

/-- A content key with a slash, a mark of an octet and dots in it is named as it is. -/
theorem requests_name_resources_slashes :
    ∃ path, (RemoteCatalog.mk catalogBase none).call Uuid.nil "../50%2F?#" =
        .ok (.ofUrl "GET" { catalogBase with path } none none) ∧
      path.Names catalogBase.path (RemoteCatalog.segments Uuid.nil "../50%2F?#") := by
  obtain ⟨path, hcall, hnames⟩ :=
    (requests_name_resources_iff parse_catalogBase (.inl rfl) none).2.1 Uuid.nil "../50%2F?#"
  exact ⟨path, hcall, hnames.mpr (by decide)⟩

/-- Two dots with a tab between them take the last fixed segment away, so that nothing is named; and
without the tab two dots are asked for where a single one is. -/
theorem not_named_dots : (∃ path, (RemoteCatalog.mk catalogBase none).call Uuid.nil ".\t." =
        .ok (.ofUrl "GET" { catalogBase with path } none none) ∧
      path.toString = "/api/v2/enterprise-customer/00000000-0000-0000-0000-000000000000//" ∧
      ¬ path.Names catalogBase.path (RemoteCatalog.segments Uuid.nil ".\t.")) ∧
    (RemoteCatalog.mk catalogBase none).call Uuid.nil "." =
      (RemoteCatalog.mk catalogBase none).call Uuid.nil ".." := by
  refine ⟨⟨_, rfl, ?_, ?_⟩, rfl⟩
  · decide +kernel
  · decide +kernel

end Bursar
