import BucketVhosts.Proofs.Vhost.Step

/-!
# Places in a vhost

Where the fields of a site stand in its vhost: which fields there are in each slot, and which
characters the templates write around them. A field is looked at with the text before and behind
it, so that what is read at its place can be said of the whole vhost.
-/
namespace BucketVhosts.Vhost

/-! ## What stands around a field -/

/-- The characters right before and right behind a slot, where these are the same for every field
in the slot. -/
def Slot.enclosing : Slot → Option (Char × Char)
  | .serverName | .redirectTarget => some (' ', ';')
  | .headerName | .redirectSource => some (' ', ' ')
  | .headerPattern | .headerValue | .cacheMime | .cacheValue => some ('"', '"')
  | .upstream => some (' ', '$')
  | .redirectHost => some ('/', '$')
  | .parentName | .extra => none

/-- The last character of a text. -/
def lastChar (s : String) : Option Char := s.toList.getLast?

/-- The first character of a text. -/
def firstChar (s : String) : Option Char := s.toList.head?

theorem lastChar_append {s t : String} {c : Char} (h : lastChar t = some c) :
    lastChar (s ++ t) = some c := by
  rw [lastChar] at *
  rw [String.toList_append, List.getLast?_append, h, Option.some_or]

theorem firstChar_append {s t : String} {c : Char} (h : firstChar s = some c) :
    firstChar (s ++ t) = some c := by
  rw [firstChar] at *
  rw [String.toList_append, List.head?_append, h, Option.some_or]

/-- Every field stands between the characters of its slot. -/
def Placed (fs : List Fragment) : Prop :=
  ∀ before slot value after, fs = before ++ .field slot value :: after →
    ∀ opening closing, slot.enclosing = some (opening, closing) →
      lastChar (written before) = some opening ∧ firstChar (written after) = some closing

section
variable {fs gs : List Fragment} {slot : Slot} {s t value : String}

theorem Placed.nil : Placed [] := by
  intro before slot value after h
  simp at h

/-- A fragment in front that is not a field of such a slot changes nothing. -/
theorem Placed.cons {f : Fragment}
    (hf : ∀ slot value, f = .field slot value → slot.enclosing = none) (h : Placed fs) :
    Placed (f :: fs) := by
  intro before slot value after hsplit opening closing henclosing
  cases before with
  | nil =>
      obtain ⟨hfield, -⟩ := List.cons_eq_cons.mp hsplit
      rw [hf slot value hfield] at henclosing
      cases henclosing
  | cons g before =>
      obtain ⟨rfl, rfl⟩ := List.cons_eq_cons.mp hsplit
      obtain ⟨hlast, hfirst⟩ := h before slot value after rfl opening closing henclosing
      exact ⟨lastChar_append hlast, hfirst⟩

theorem Placed.plain (h : Placed fs) : Placed (.plain s :: fs) := by
  apply h.cons
  intro slot value hfield
  cases hfield

theorem Placed.loose (hslot : slot.enclosing = none) (h : Placed fs) :
    Placed (.field slot value :: fs) := by
  apply h.cons
  intro slot' value' hfield
  cases hfield
  exact hslot

/-- A field between two texts, with the characters of its slot at their ends. -/
theorem Placed.between {opening closing : Char} (hslot : slot.enclosing = some (opening, closing))
    (hs : lastChar s = some opening) (ht : firstChar t = some closing)
    (h : Placed (.plain t :: fs)) :
    Placed (.plain s :: .field slot value :: .plain t :: fs) := by
  intro before slot' value' after hsplit opening' closing' henclosing
  rcases before with _ | ⟨f, _ | ⟨g, before⟩⟩
  · cases hsplit
  · -- The field between the two texts.
    cases hsplit
    rw [hslot] at henclosing
    cases henclosing
    refine ⟨?_, firstChar_append ht⟩
    simpa [Fragment.text] using hs
  · obtain ⟨rfl, hrest⟩ := List.cons_eq_cons.mp hsplit
    obtain ⟨rfl, htail⟩ := List.cons_eq_cons.mp hrest
    obtain ⟨hlast, hfirst⟩ := h before slot' value' after htail opening' closing' henclosing
    exact ⟨lastChar_append (lastChar_append hlast), hfirst⟩

theorem Placed.append (hf : Placed fs) (hg : Placed gs) : Placed (fs ++ gs) := by
  intro before slot value after hsplit opening closing henclosing
  rcases List.append_eq_append_iff.mp hsplit with ⟨between, rfl, hrest⟩ | ⟨between, rfl, hrest⟩
  · obtain ⟨hlast, hfirst⟩ := hg between slot value after hrest opening closing henclosing
    rw [written_append]
    exact ⟨lastChar_append hlast, hfirst⟩
  -- A field at the very start of the second list would have no text of that list before it.
  · cases between with
    | nil =>
        obtain ⟨hlast, hfirst⟩ := hg [] slot value after hrest.symm opening closing henclosing
        cases hlast
    | cons f between =>
        rw [List.cons_append] at hrest
        obtain ⟨rfl, rfl⟩ := List.cons_eq_cons.mp hrest
        obtain ⟨hlast, hfirst⟩ := hf before slot value between rfl opening closing henclosing
        rw [written_append]
        exact ⟨hlast, firstChar_append hfirst⟩

theorem Placed.flatMap {α : Type} {l : List α} {f : α → List Fragment}
    (h : ∀ a ∈ l, Placed (f a)) : Placed (l.flatMap f) := by
  induction l with
  | nil => exact .nil
  | cons a rest ih =>
      rw [List.forall_mem_cons] at h
      rw [List.flatMap_cons]
      exact h.1.append (ih h.2)

end

/-! ## The layouts are placed -/

section
variable {cacheVariable : Option String} {context : Context} {width : Int} {parent : String}

theorem placed_proxying (upstream : String) : Placed (proxying cacheVariable upstream) := by
  have hheader : Placed (cacheHeader cacheVariable) := by
    cases cacheVariable with
    | none => exact .nil
    | some name => exact .plain (.plain (.plain .nil))
  exact hheader.append
    (.plain (.plain (.between rfl (by simp [lastChar]) (by simp [firstChar]) (.plain .nil))))

theorem placed_headerLine (header : String × String) : Placed (headerLine header) :=
  .between rfl (by simp [lastChar]) (by simp [firstChar])
    (.between rfl (by simp [lastChar]) (by simp [firstChar]) (.plain .nil))

theorem placed_headerStanza (upstream : String) (rule : HeaderRule) :
    Placed (headerStanza cacheVariable upstream rule) := by
  have hpattern : Placed [.plain "\n    location ~ \"", .field .headerPattern rule.pattern,
      .plain "\" \x7b\n"] :=
    .between rfl (by simp [lastChar]) (by simp [firstChar]) (.plain .nil)
  exact (hpattern.append (.flatMap fun header _ => placed_headerLine header)).append
    (placed_proxying upstream)

theorem placed_redirectStanza (rule : RedirectRule) : Placed (redirectStanza rule) :=
  .between rfl (by simp [lastChar]) (by simp [firstChar])
    (.plain (.plain (.between rfl (by simp [lastChar]) (by simp [firstChar]) (.plain .nil))))

theorem placed_extraLines (extra : String) : Placed (extraLines extra) := by
  rw [extraLines]
  split
  · exact .nil
  · split
    · exact .plain (.loose rfl .nil)
    · exact .plain (.loose rfl (.plain .nil))

theorem placed_serverBlock : Placed (serverBlock cacheVariable context) := by
  have hname : Placed (.plain Template.Shipped.listening :: .field .serverName context.domain ::
      .plain ";\n\n    include " :: [.plain Renderer.tlsSnippet,
        .plain (";\n\n    if ($scheme = http) \x7b\n" ++
          "        return 301 https://$host$request_uri;\n    \x7d\n")]) :=
    .between rfl (lastChar_append (by simp [lastChar])) (by simp [firstChar])
      (.plain (.plain (.plain .nil)))
  have hheaders : Placed (context.headers.flatMap (headerStanza cacheVariable context.upstream)) :=
    .flatMap fun rule _ => placed_headerStanza context.upstream rule
  have hredirects : Placed (context.redirects.flatMap redirectStanza) :=
    .flatMap fun rule _ => placed_redirectStanza rule
  exact (((((hname.append hheaders).append hredirects).append (.plain .nil)).append
    (placed_proxying context.upstream)).append (placed_extraLines context.extra)).append
      (.plain .nil)

theorem placed_banner (variant : Variant) : Placed (banner variant) :=
  .plain (.plain (.plain .nil))

theorem placed_simpleLayout : Placed (simpleLayout context) :=
  (placed_banner .simple).append placed_serverBlock

theorem placed_cacheRow (rule : CacheRule) : Placed (cacheRow width rule) :=
  .plain (.between rfl (by simp [lastChar]) (by simp [firstChar])
    (.plain (.plain (.between rfl (by simp [lastChar]) (by simp [firstChar]) (.plain .nil)))))

theorem placed_cacheMap : Placed (cacheMap width context) := by
  have hhead : Placed [.plain "map $upstream_http_content_type ", .plain context.cacheVariable,
      .plain " \x7b\n    ", .plain "default", .plain (padding width "default"),
      .plain " \"\";\n"] :=
    .plain (.plain (.plain (.plain (.plain (.plain .nil)))))
  exact (hhead.append (.flatMap fun rule _ => placed_cacheRow rule)).append (.plain .nil)

theorem placed_parentBlock : Placed (parentBlock parent context) :=
  .plain (.loose rfl (.plain (.loose rfl (.plain (.plain
    (.between rfl (by simp [lastChar]) (by simp [firstChar]) (.plain .nil)))))))

theorem placed_relaxedLayout : Placed (relaxedLayout width parent context) :=
  (((placed_banner .relaxed).append placed_cacheMap).append placed_parentBlock).append
    placed_serverBlock

/-- **Every field of a vhost stands between the characters of its slot.** -/
theorem placed_layout {variant : Variant} : Placed (layout variant width context) := by
  cases variant with
  | simple => exact placed_simpleLayout
  | relaxed => exact placed_relaxedLayout

end

/-! ## The fields in the slots -/

/-- The fields that a context has for the slots of a server block. -/
def InServerBlock (context : Context) : Slot → String → Prop
  | .serverName, v => v = context.domain
  | .headerPattern, v => ∃ rule ∈ context.headers, v = rule.pattern
  | .headerName, v => ∃ rule ∈ context.headers, ∃ e ∈ rule.fields.entries, v = e.1
  | .headerValue, v => ∃ rule ∈ context.headers, ∃ e ∈ rule.fields.entries, v = e.2
  | .upstream, v => v = context.upstream
  | .redirectSource, v => ∃ rule ∈ context.redirects, v = rule.source
  | .redirectTarget, v => ∃ rule ∈ context.redirects, v = rule.target
  | .extra, v => v = context.extra ∧ context.extra ≠ ""
  | .parentName, _ | .redirectHost, _ | .cacheMime, _ | .cacheValue, _ => False

/-- The fields that a context has for the slots of what a relaxed vhost adds. -/
def InAdditions (context : Context) : Slot → String → Prop
  | .parentName, v => v = Host.parent context.domain
  | .redirectHost, v => v = context.domain
  | .cacheMime, v => ∃ rule ∈ context.cacheRules, v = rule.mime
  | .cacheValue, v => ∃ rule ∈ context.cacheRules, v = rule.value
  | _, _ => False

section
variable {cacheVariable : Option String} {context : Context} {width : Int} {parent : String}
  {slot : Slot} {v : String}

theorem mem_proxying_iff {upstream : String} :
    .field slot v ∈ proxying cacheVariable upstream ↔ slot = .upstream ∧ v = upstream := by
  have hheader : .field slot v ∉ cacheHeader cacheVariable := by
    cases cacheVariable <;> simp [cacheHeader]
  simp [proxying, hheader]

theorem mem_extraLines_iff {extra : String} :
    .field slot v ∈ extraLines extra ↔ slot = .extra ∧ v = extra ∧ extra ≠ "" := by
  rw [extraLines]
  by_cases hempty : extra = ""
  · simp [hempty]
  · rw [if_neg hempty]
    split <;> simp [hempty]

theorem mem_headerStanza_iff {upstream : String} {rule : HeaderRule} :
    .field slot v ∈ headerStanza cacheVariable upstream rule ↔
      slot = .headerPattern ∧ v = rule.pattern ∨
        (∃ e ∈ rule.fields.entries, slot = .headerName ∧ v = e.1 ∨ slot = .headerValue ∧ v = e.2) ∨
          slot = .upstream ∧ v = upstream := by
  simp [headerStanza, headerLine, mem_proxying_iff, Template.sortFields]

theorem mem_serverBlock_iff :
    .field slot v ∈ serverBlock cacheVariable context ↔ InServerBlock context slot v := by
  rw [serverBlock]
  simp only [List.mem_append, List.mem_flatMap, mem_headerStanza_iff, mem_proxying_iff,
    mem_extraLines_iff]
  cases slot <;> simp [redirectStanza, InServerBlock]

theorem mem_cacheRow_iff {rule : CacheRule} :
    .field slot v ∈ cacheRow width rule ↔
      slot = .cacheMime ∧ v = rule.mime ∨ slot = .cacheValue ∧ v = rule.value := by
  simp [cacheRow]

theorem mem_additions_iff :
    .field slot v ∈ banner .relaxed ++ cacheMap width context ++
        parentBlock (Host.parent context.domain) context ↔
      InAdditions context slot v := by
  simp only [List.mem_append, cacheMap, List.mem_flatMap, mem_cacheRow_iff]
  cases slot <;> simp [banner, parentBlock, InAdditions]

/-- The fields of a vhost. -/
theorem mem_layout_iff {variant : Variant} :
    .field slot v ∈ layout variant width context ↔
      InServerBlock context slot v ∨ variant = .relaxed ∧ InAdditions context slot v := by
  cases variant with
  | simple =>
      have hbanner : .field slot v ∉ banner .simple := by
        simp [banner]
      rw [layout, simpleLayout, List.mem_append, mem_serverBlock_iff]
      simp [hbanner]
  | relaxed =>
      rw [layout, relaxedLayout, List.mem_append, mem_additions_iff, mem_serverBlock_iff]
      simp [or_comm]

end
end BucketVhosts.Vhost
