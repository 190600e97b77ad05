import BucketVhosts.Proofs.Vhost.Additions

/-!
# A site's own configuration

What a site brings along as configuration of its own is written at the end of its vhost, as it is,
in front of the bracket that closes the server block. All text in front of it is that of the other
settings, and is the same whatever the site brings along.
-/
namespace BucketVhosts

/-- A text ends with a character when that is its last one. -/
theorem Text.endsWith_singleton_iff {c : Char} {s : String} :
    Text.endsWith (.singleton c) s = true ↔ s.toList.getLast? = some c := by
  rw [Text.endsWith, String.toList_singleton, List.isSuffixOf_iff_suffix]
  constructor
  · rintro ⟨front, hfront⟩
    rw [← hfront, List.getLast?_concat]
  · intro hlast
    obtain ⟨front, hfront⟩ := List.getLast?_eq_some_iff.mp hlast
    exact ⟨front, hfront.symm⟩

namespace Vhost

/-! ## What stands in front -/

/-- A server block up to the place of the site's own configuration. -/
def serverFront (cacheVariable : Option String) (context : Context) : String :=
  serverStart context.domain ++ String.join (context.headers.map fun rule =>
      ruleLines rule ++ cacheLine cacheVariable ++ proxyLines context.upstream) ++
    String.join (context.redirects.map redirectLines) ++ "\n" ++ catchAllLine ++
    cacheLine cacheVariable ++ proxyLines context.upstream

/-- A vhost up to the place of the site's own configuration. -/
def vhostFront (variant : Variant) (width : Int) (context : Context) : String :=
  match variant with
  | .simple => commentLine .simple ++ serverFront none context
  | .relaxed =>
    commentLine .relaxed ++ mapLines width context ++ "\n" ++
      parentLines (Host.parent context.domain) context.domain ++ "\n" ++
      serverFront (some context.cacheVariable) context

/-- The site's own configuration is not in front of its place. -/
theorem vhostFront_with_extra (variant : Variant) (width : Int) (context : Context)
    (extra : String) :
    vhostFront variant width { context with extra := extra } =
      vhostFront variant width context := by
  cases variant <;> rfl

theorem written_serverBlock_end (cacheVariable : Option String) (context : Context) :
    written (serverBlock cacheVariable context) =
      serverFront cacheVariable context ++ serverEnd context.extra := by
  rw [written_serverBlock, serverParts, intercalate_partsFrom, serverFront]

/-- A vhost ends with what the site's own configuration makes of its end. -/
theorem written_layout_end (variant : Variant) (width : Int) (context : Context) :
    written (layout variant width context) =
      vhostFront variant width context ++ serverEnd context.extra := by
  cases variant with
  | simple =>
      rw [layout, simpleLayout, written_append, written_banner, written_serverBlock_end, vhostFront]
      simp only [String.append_assoc]
  | relaxed =>
      rw [layout, relaxedLayout, written_append, written_append, written_append, written_banner,
        written_cacheMap, written_parentBlock, written_serverBlock_end, vhostFront]
      simp only [String.append_assoc]

/-! ## The end of a vhost -/

theorem serverEnd_empty : serverEnd "" = "\x7d\n" := by
  rw [serverEnd, if_pos rfl, String.empty_append]

/-- A line end is added only where there is none. -/
theorem serverEnd_of_ne {extra : String} (h : extra ≠ "") :
    serverEnd extra =
      "\n" ++ extra ++ (if extra.toList.getLast? = some '\n' then "" else "\n") ++ "\x7d\n" := by
  have hends : Text.endsWith "\n" extra = true ↔ extra.toList.getLast? = some '\n' :=
    Text.endsWith_singleton_iff (c := '\n')
  rw [serverEnd, if_neg h]
  by_cases hlast : extra.toList.getLast? = some '\n'
  · rw [if_pos (hends.mpr hlast), if_pos hlast]
  · rw [if_neg (mt hends.mp hlast), if_neg hlast]

/-- **A site's own configuration is written as it is, and changes nothing else.** Without one the
vhost is some text and the closing bracket. With one it is the same text, a line feed, the
configuration, one more line feed if that does not end with one, and the closing bracket. -/
theorem render_extra [Limits] {padWidth : Operand} {renderer : Renderer}
    (made : Renderer.shipped padWidth = .ok renderer) {variant : Variant} {context : Context}
    (hlabels : HasLabels variant context.domain) :
    ∃ front,
      renderer.render variant { context with extra := "" } = .ok (front ++ "\x7d\n") ∧
      ∀ extra, extra ≠ "" →
        renderer.render variant { context with extra := extra } =
          .ok (front ++ "\n" ++ extra ++
            (if extra.toList.getLast? = some '\n' then "" else "\n") ++ "\x7d\n") := by
  obtain ⟨width, hwidth, -⟩ := render_layout made hlabels
  have hrender : ∀ extra, renderer.render variant { context with extra := extra } =
      .ok (vhostFront variant width context ++ serverEnd extra) := by
    intro extra
    have hdomain : HasLabels variant { context with extra := extra }.domain := hlabels
    obtain ⟨width', hwidth', hlayout⟩ := render_layout made hdomain
    obtain rfl : width = width' := by
      rw [hwidth] at hwidth'
      cases hwidth'
      rfl
    rw [hlayout, written_layout_end, vhostFront_with_extra]
  refine ⟨vhostFront variant width context, ?_, ?_⟩
  · rw [hrender, serverEnd_empty]
  · intro extra hne
    rw [hrender, serverEnd_of_ne hne]
    simp only [String.append_assoc]

/-- A line that ends with a line feed gets no other one, and brackets stay as they are. -/
theorem render_extra_one_rule :
    Renderer.shipped (.int Filter.defaultWidth) = .ok Renderer.standard ∧
      HasLabels .relaxed oneRuleContext.domain ∧
      ∃ front,
        Renderer.standard.render .relaxed oneRuleContext = .ok (front ++ "\x7d\n") ∧
        Renderer.standard.render .relaxed { oneRuleContext with extra := "# end\n" } =
          .ok (front ++ "\n# end\n\x7d\n") ∧
        Renderer.standard.render .relaxed { oneRuleContext with extra := "\x7b\x7b x \x7d" } =
          .ok (front ++ "\n\x7b\x7b x \x7d\n\x7d\n") := by
  have hlabels : HasLabels .relaxed oneRuleContext.domain := fun _ => by decide +kernel
  obtain ⟨front, hempty, hextra⟩ := render_extra shipped_standard hlabels
  refine ⟨shipped_standard, hlabels, front, hempty, ?_, ?_⟩
  · have hfeed : "# end\n".toList.getLast? = some '\n' := by decide
    rw [hextra "# end\n" (by decide), if_pos hfeed]
    simp [String.append_assoc]
  · have hfeed : "\x7b\x7b x \x7d".toList.getLast? ≠ some '\n' := by decide
    rw [hextra "\x7b\x7b x \x7d" (by decide), if_neg hfeed]
    simp [String.append_assoc]

end Vhost
end BucketVhosts
