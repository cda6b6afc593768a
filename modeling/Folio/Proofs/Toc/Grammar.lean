import Folio.Proofs.Text.Balance
import Folio.Proofs.Toc.Reading

/-!
# The grammar of a table of contents

A list of the grammar is `<ul>`, items, `</ul>`.  An item is a link between `<li>` and
`</li>`, which may be followed by a list that is not empty.  A reader gets the items of
exactly the texts of the grammar.  Every rendered table is such a text, so that only the
levels of its headings are lost; its tags are balanced, one item for each entry and one
list for each row of entries.
-/

namespace Folio
namespace Toc

/-!
# The grammar
-/

mutual

inductive IsList : Text -> List Item -> Prop where
  | list {s : Text} {list : List Item} (hitems : AreItems s list) :
      IsList ("<ul>" ++ s ++ "</ul>") list

inductive AreItems : Text -> List Item -> Prop where
  | nil : AreItems [] []
  | cons {s t : Text} {item : Item} {list : List Item} (hitem : IsItem s item)
      (hitems : AreItems t list) : AreItems (s ++ t) (item :: list)

inductive IsItem : Text -> Item -> Prop where
  | leaf {id name : Text} (hid : '"' ∉ id) (hname : '<' ∉ name) :
      IsItem ("<li><a href=\"#" ++ id ++ "\">" ++ name ++ "</a>" ++ "</li>") (Item.leaf id name)
  | branch {id name s : Text} {below : List Item} (hid : '"' ∉ id) (hname : '<' ∉ name)
      (hbelow : IsList s below) (hne : below ≠ []) :
      IsItem ("<li><a href=\"#" ++ id ++ "\">" ++ name ++ "</a>" ++ s ++ "</li>")
        (Item.branch id name below)

end

/-!
# The reader of the grammar
-/

mutual

def Item.isFilled : Item -> Bool
  | Item.leaf _ _ => true
  | Item.branch _ _ below => !below.isEmpty && areFilled below

def areFilled : List Item -> Bool
  | [] => true
  | item :: list => item.isFilled && areFilled list

end

def readTable? (s : Text) : Option (List Item) :=
  (read? s).filter areFilled

theorem readLink?_sound {s id name rest : Text} (h : readLink? s = some (id, name, rest)) :
    '"' ∉ id ∧ '<' ∉ name ∧
      s = "<li><a href=\"#" ++ id ++ "\">" ++ name ++ "</a>" ++ rest := by
  unfold readLink? at h
  simp only [Option.bind_eq_bind, Option.bind_eq_some_iff, Option.some.injEq, Prod.mk.injEq] at h
  rcases h with ⟨target, htarget, content, hcontent, rest', hrest, rfl, rfl, rfl⟩
  have hid : '"' ∉ target.takeWhile fun c => c ≠ '"' := by
    intro hmem
    simpa using List.mem_takeWhile_imp hmem
  have hname : '<' ∉ content.takeWhile fun c => c ≠ '<' := by
    intro hmem
    simpa using List.mem_takeWhile_imp hmem
  refine ⟨hid, hname, ?_⟩
  rw [Text.after?_eq_some_iff] at htarget hcontent hrest
  rw [List.append_assoc _ _ rest', ← hrest, List.append_assoc _ _ (content.dropWhile _),
    List.takeWhile_append_dropWhile, List.append_assoc _ _ content, ← hcontent,
    List.append_assoc _ _ (target.dropWhile _), List.takeWhile_append_dropWhile]
  exact htarget

section Sound

variable {reader : Text -> Option (List Item × Text)}
  (hreader : forall {s list rest}, reader s = some (list, rest) -> areFilled list = true ->
    exists t, s = t ++ rest ∧ AreItems t list)

include hreader

theorem readList?_sound {s rest : Text} {list : List Item}
    (h : readList? reader s = some (list, rest)) (hfilled : areFilled list = true) :
    exists t, s = t ++ rest ∧ IsList t list := by
  unfold readList? at h
  simp only [Option.bind_eq_bind, Option.bind_eq_some_iff, Option.some.injEq, Prod.mk.injEq,
    Prod.exists] at h
  rcases h with ⟨inner, hinner, read, behind, hread, rest', hrest, rfl, rfl⟩
  rw [Text.after?_eq_some_iff] at hinner hrest
  rcases hreader hread hfilled with ⟨t, ht, hitems⟩
  refine ⟨"<ul>" ++ t ++ "</ul>", ?_, IsList.list hitems⟩
  rw [hinner, ht, hrest, List.append_assoc, List.append_assoc]

theorem readBelow?_sound {id name s rest : Text} {item : Item} (hid : '"' ∉ id)
    (hname : '<' ∉ name) (h : readBelow? reader id name s = some (item, rest))
    (hfilled : item.isFilled = true) :
    exists t, s = t ++ rest ∧
      IsItem ("<li><a href=\"#" ++ id ++ "\">" ++ name ++ "</a>" ++ t ++ "</li>") item := by
  unfold readBelow? at h
  split at h
  · simp only [Option.bind_eq_bind, Option.bind_eq_some_iff, Option.some.injEq, Prod.mk.injEq,
      Prod.exists] at h
    rcases h with ⟨below, behind, hbelow, rfl, rfl⟩
    rw [Item.isFilled, Bool.and_eq_true, Bool.not_eq_true', List.isEmpty_eq_false_iff] at hfilled
    rcases readList?_sound hreader hbelow hfilled.2 with ⟨t, ht, hlist⟩
    exact ⟨t, ht, IsItem.branch hid hname hlist hfilled.1⟩
  · injection h with h
    injection h with hitem hrest
    subst hitem hrest
    refine ⟨[], rfl, ?_⟩
    rw [List.append_nil]
    exact IsItem.leaf hid hname

end Sound

theorem readItems?_sound {fuel : Nat} {s rest : Text} {list : List Item}
    (h : readItems? fuel s = some (list, rest)) (hfilled : areFilled list = true) :
    exists t, s = t ++ rest ∧ AreItems t list := by
  induction fuel generalizing s rest list with
  | zero =>
      cases h
  | succ fuel ih =>
      rw [readItems?] at h
      cases hlink : readLink? s with
      | none =>
          rw [hlink] at h
          injection h with h
          injection h with hlist hrest
          subst hlist hrest
          exact ⟨[], rfl, AreItems.nil⟩
      | some link =>
          rcases link with ⟨id, name, behind⟩
          rw [hlink] at h
          simp only [Option.bind_eq_bind, Option.bind_eq_some_iff, Option.some.injEq,
            Prod.mk.injEq, Prod.exists] at h
          rcases h with ⟨item, closing, hitem, next, hnext, others, last, hothers, rfl, rfl⟩
          rw [areFilled, Bool.and_eq_true] at hfilled
          rcases readLink?_sound hlink with ⟨hid, hname, hs⟩
          rcases readBelow?_sound ih hid hname hitem hfilled.1 with ⟨t, ht, his⟩
          rcases ih hothers hfilled.2 with ⟨u, hu, hare⟩
          rw [Text.after?_eq_some_iff] at hnext
          refine ⟨_, ?_, AreItems.cons his hare⟩
          rw [hs, ht, hnext, hu]
          simp only [List.append_assoc]

theorem isList_of_readTable? {s : Text} {list : List Item} (h : readTable? s = some list) :
    IsList s list := by
  rcases Option.filter_eq_some_iff.mp h with ⟨hread, hfilled⟩
  unfold read? at hread
  split at hread
  · rename_i hlist
    injection hread with hread
    subst hread
    rcases readList?_sound readItems?_sound hlist hfilled with ⟨t, ht, his⟩
    rw [List.append_nil] at ht
    rw [ht]
    exact his
  · cases hread

/-!
# Tables and texts of the grammar

A table is a text of the grammar, and every text of the grammar is a table, of headings
with whatever levels.
-/

mutual

theorem isFilled_item : forall entry : Entry, entry.item.isFilled = true
  | Entry.node _ [] => rfl
  | Entry.node _ (child :: children) => by
      rw [Entry.item, Item.isFilled, ← items, areFilled_items]
      rfl

theorem areFilled_items : forall entries : List Entry, areFilled (items entries) = true
  | [] => rfl
  | entry :: entries => by
      rw [items, areFilled, isFilled_item entry, areFilled_items entries]
      rfl

end

theorem readTable?_render {forest : List Entry}
    (h : forall heading, heading ∈ preorderAll forest -> heading.IsLinkable) :
    readTable? (render forest) = some (items forest) := by
  rw [readTable?, read?_render h, Option.filter_some, if_pos (areFilled_items forest)]

/-- Whether a text is the table of a forest that has the given items. -/
def IsTable (s : Text) (list : List Item) : Prop :=
  exists forest, render forest = s ∧ items forest = list ∧
    forall heading, heading ∈ preorderAll forest -> heading.IsLinkable

mutual

theorem isTable_of_isList : forall {s : Text} {list : List Item}, IsList s list -> IsTable s list
  | _, _, IsList.list hitems => by
      rcases renders_of_areItems hitems with ⟨forest, rfl, hforest⟩
      exact ⟨forest, rfl, hforest⟩

theorem renders_of_areItems :
    forall {s : Text} {list : List Item}, AreItems s list ->
      exists forest, renderItems forest = s ∧ items forest = list ∧
        forall heading, heading ∈ preorderAll forest -> heading.IsLinkable
  | _, _, AreItems.nil => ⟨[], rfl, rfl, fun _ h => nomatch h⟩
  | _, _, AreItems.cons hitem hitems => by
      rcases renders_of_isItem hitem with ⟨entry, hentry, rfl, hheadings⟩
      rcases renders_of_areItems hitems with ⟨forest, hforest, rfl, hothers⟩
      refine ⟨entry :: forest, ?_, rfl, ?_⟩
      · rw [renderItems, hentry, hforest]
      · rw [preorderAll, List.forall_mem_append]
        exact ⟨hheadings, hothers⟩

theorem renders_of_isItem :
    forall {s : Text} {item : Item}, IsItem s item ->
      exists entry, renderEntry entry = s ∧ entry.item = item ∧
        forall heading, heading ∈ entry.preorder -> heading.IsLinkable
  | _, _, @IsItem.leaf id name hid hname => by
      let heading : Heading := { level := 0, id := id, name := name }
      refine ⟨Entry.node heading [], rfl, rfl, ?_⟩
      rw [Entry.preorder, List.forall_mem_cons]
      exact ⟨⟨hid, hname⟩, fun _ h => nomatch h⟩
  | _, _, @IsItem.branch id name _ _ hid hname hbelow hne => by
      let heading : Heading := { level := 0, id := id, name := name }
      rcases isTable_of_isList hbelow with ⟨forest, rfl, rfl, hheadings⟩
      cases forest with
      | nil =>
          exact absurd rfl hne
      | cons child children =>
          refine ⟨Entry.node heading (child :: children), rfl, rfl, ?_⟩
          rw [Entry.preorder, List.forall_mem_cons]
          exact ⟨⟨hid, hname⟩, hheadings⟩

end

theorem readTable?_eq_some_iff {s : Text} {list : List Item} :
    readTable? s = some list ↔ IsList s list := by
  constructor
  · exact isList_of_readTable?
  · intro h
    rcases isTable_of_isList h with ⟨forest, rfl, rfl, hheadings⟩
    exact readTable?_render hheadings

/-!
# Tags of a table
-/

mutual

def Entry.within : Entry -> List Entry
  | Entry.node heading children => Entry.node heading children :: withinAll children

def withinAll : List Entry -> List Entry
  | [] => []
  | entry :: entries => entry.within ++ withinAll entries

end

def Entry.isParent (entry : Entry) : Bool :=
  !entry.children.isEmpty

open Markup (Tag Balanced Carries)

/-- Whether a text has balanced tags, with the given numbers of items and lists. -/
def Encloses (s : Text) (itemCount listCount : Nat) : Prop :=
  exists found, Carries s found ∧ Balanced found ∧
    found.count (Tag.start "li") = itemCount ∧ found.count (Tag.start "ul") = listCount

namespace Encloses

variable {s t : Text} {m n m' n' : Nat}

theorem nil : Encloses [] 0 0 :=
  ⟨[], Carries.nil, Balanced.nil, rfl, rfl⟩

theorem append (hs : Encloses s m n) (ht : Encloses t m' n') :
    Encloses (s ++ t) (m + m') (n + n') := by
  rcases hs with ⟨found, hcarries, hbalanced, rfl, rfl⟩
  rcases ht with ⟨others, hcarries', hbalanced', rfl, rfl⟩
  exact ⟨found ++ others, hcarries.append hcarries', hbalanced.append hbalanced',
    List.count_append, List.count_append⟩

theorem element (name : Text) {before behind : Text}
    (hbefore : Carries before [Tag.start name]) (hbehind : Carries behind [Tag.stop name])
    (h : Encloses s m n) :
    Encloses (before ++ s ++ behind) (m + if name = "li".toList then 1 else 0)
      (n + if name = "ul".toList then 1 else 0) := by
  rcases h with ⟨found, hcarries, hbalanced, rfl, rfl⟩
  refine ⟨_, (hbefore.append hcarries).append hbehind, ?_, ?_, ?_⟩
  · exact Balanced.element hbalanced Balanced.nil
  · simp [List.count_cons]
  · simp [List.count_cons]

theorem item (h : Encloses s m n) : Encloses ("<li>".toList ++ s ++ "</li>".toList) (m + 1) n :=
  element "li" (fun _ => rfl) (fun _ => rfl) h

theorem list (h : Encloses s m n) : Encloses ("<ul>".toList ++ s ++ "</ul>".toList) m (n + 1) :=
  element "ul" (fun _ => rfl) (fun _ => rfl) h

theorem link {heading : Heading} (h : heading.IsLinkable) : Encloses (link heading) 0 0 := by
  have hstart : Carries ("<a href=\"#".toList ++ heading.id ++ "\">".toList) [Tag.start "a"] := by
    intro rest
    have hvalue := Markup.tagsFrom_value h.id (Markup.Element.named "a") "href" "#"
      ("\">".toList ++ rest)
    rw [List.append_assoc, List.append_assoc]
    exact hvalue
  exact element "a" hstart (fun _ => rfl)
    ⟨[], Carries.text h.name, Balanced.nil, rfl, rfl⟩

end Encloses

mutual

theorem encloses_renderEntry :
    forall entry : Entry, (forall heading, heading ∈ entry.preorder -> heading.IsLinkable) ->
      Encloses (renderEntry entry) entry.within.length (entry.within.countP Entry.isParent)
  | Entry.node heading [], h =>
      (Encloses.link (h heading List.mem_cons_self)).item
  | Entry.node heading (child :: children), h => by
      rw [Entry.preorder, List.forall_mem_cons] at h
      have hbelow := encloses_renderItems (child :: children) h.2
      have hentry := ((Encloses.link h.1).append hbelow.list).item
      rw [Entry.within, List.length_cons, List.countP_cons_of_pos rfl]
      rw [Nat.zero_add, Nat.zero_add] at hentry
      exact hentry

theorem encloses_renderItems :
    forall entries : List Entry,
      (forall heading, heading ∈ preorderAll entries -> heading.IsLinkable) ->
        Encloses (renderItems entries) (withinAll entries).length
          ((withinAll entries).countP Entry.isParent)
  | [], _ => Encloses.nil
  | entry :: entries, h => by
      rw [preorderAll, List.forall_mem_append] at h
      rw [withinAll, List.length_append, List.countP_append]
      exact (encloses_renderEntry entry h.1).append (encloses_renderItems entries h.2)

end

/-- A table can be read back.  The reader takes exactly the texts of the grammar, and it
reads from a table the forest that was rendered, all but the levels; so forests with one
table differ in these at most.  The tags of a table are balanced, with one item for each
entry, one list for each entry that has others below it, and one for the whole. -/
theorem table_readable {forest : List Entry}
    (h : forall heading, heading ∈ preorderAll forest -> heading.IsLinkable) :
    (forall s list, readTable? s = some list ↔ IsList s list) ∧
      readTable? (render forest) = some (items forest) ∧
      (forall other, (forall heading, heading ∈ preorderAll other -> heading.IsLinkable) ->
        render other = render forest -> items other = items forest) ∧
      Balanced (Markup.tags (render forest)) ∧
      (Markup.tags (render forest)).count (Tag.start "li") = (withinAll forest).length ∧
      (Markup.tags (render forest)).count (Tag.start "ul") =
        (withinAll forest).countP Entry.isParent + 1 := by
  have hread := readTable?_render h
  rcases (encloses_renderItems forest h).list with ⟨found, hcarries, hbalanced, hitems, hlists⟩
  have htags : Markup.tags (render forest) = found := hcarries.tags
  rw [htags]
  refine ⟨fun _ _ => readTable?_eq_some_iff, hread, ?_, hbalanced, hitems, hlists⟩
  intro other hother heq
  have hread' := readTable?_render hother
  rw [heq, hread] at hread'
  exact (Option.some.inj hread').symm

/-- Anchors may have angle brackets, and names double quotes. -/
theorem table_readable_of_brackets :
    let outer : Heading := { level := 1, id := "a</a><ul>", name := "\"A\" &gt; >" }
    let inner : Heading := { level := 3, id := [], name := [] }
    let last : Heading := { level := 2, id := "b", name := "B" }
    let forest := [Entry.node outer [Entry.node inner []], Entry.node last []]
    (forall heading, heading ∈ preorderAll forest -> heading.IsLinkable) ∧
      readTable? (render forest) =
        some [Item.branch outer.id outer.name [Item.leaf [] []], Item.leaf "b" "B"] ∧
      Balanced (Markup.tags (render forest)) ∧
      (Markup.tags (render forest)).count (Tag.start "li") = 3 ∧
      (Markup.tags (render forest)).count (Tag.start "ul") = 2 := by
  intro outer inner last forest
  have h : forall heading, heading ∈ preorderAll forest -> heading.IsLinkable := by
    have hheadings : preorderAll forest = [outer, inner, last] := rfl
    rw [hheadings]
    simp only [List.forall_mem_cons]
    exact ⟨⟨by decide, by decide⟩, ⟨by decide, by decide⟩, ⟨by decide, by decide⟩,
      fun _ hmem => nomatch hmem⟩
  have hreadable := table_readable h
  exact ⟨h, hreadable.2.1, hreadable.2.2.2⟩

end Toc
end Folio
