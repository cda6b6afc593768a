import Folio.Proofs.Text.Tag
import Folio.Proofs.Toc.Outline
import Folio.Toc.Rendering

/-!
# Reading a table of contents

A table is a list in markup: `<ul>`, its items, `</ul>`.  An item is `<li>`, a link to an
anchor, the list of the items below it if there is one, and `</li>`.  A reader of this
grammar gets every table back whose anchors have no double quote, which would end the
target of a link, and whose names have no angle bracket, which would end its text.
-/

namespace Folio
namespace Toc

inductive Item where
  | leaf (id name : Text)
  | branch (id name : Text) (below : List Item)

/-!
# The reader

Every part of the reader gives back what follows the text that it has read.
-/

def readLink? (s : Text) : Option (Text × Text × Text) := do
  let target <- Text.after? "<li><a href=\"#" s
  let content <- Text.after? "\">" (target.dropWhile fun c => c ≠ '"')
  let rest <- Text.after? "</a>" (content.dropWhile fun c => c ≠ '<')
  some (target.takeWhile fun c => c ≠ '"', content.takeWhile fun c => c ≠ '<', rest)

section Lists

variable (readItems? : Text -> Option (List Item × Text))

def readList? (s : Text) : Option (List Item × Text) := do
  let s <- Text.after? "<ul>" s
  let (items, s) <- readItems? s
  let s <- Text.after? "</ul>" s
  some (items, s)

def readBelow? (id name s : Text) : Option (Item × Text) :=
  if Text.startsWith "<ul>" s then do
    let (below, s) <- readList? readItems? s
    some (Item.branch id name below, s)
  else
    some (Item.leaf id name, s)

end Lists

def readItems? : Nat -> Text -> Option (List Item × Text)
  | 0, _ => none
  | fuel + 1, s =>
      match readLink? s with
      | none => some ([], s)
      | some (id, name, s) => do
          let (item, s) <- readBelow? (readItems? fuel) id name s
          let s <- Text.after? "</li>" s
          let (items, s) <- readItems? fuel s
          some (item :: items, s)

/-- Reads a text that is a table and nothing else.  Every item takes up some of the text,
so that its length is fuel enough. -/
def read? (s : Text) : Option (List Item) :=
  match readList? (readItems? s.length) s with
  | some (items, []) => some items
  | _ => none

/-!
# The items of a forest
-/

mutual

def Entry.item : Entry -> Item
  | Entry.node heading [] => Item.leaf heading.id heading.name
  | Entry.node heading (child :: children) =>
      Item.branch heading.id heading.name (child.item :: items children)

def items : List Entry -> List Item
  | [] => []
  | entry :: entries => entry.item :: items entries

end

/-- Whether a heading ends neither the target nor the text of its link. -/
structure Heading.IsLinkable (heading : Heading) : Prop where
  id : '"' ∉ heading.id
  name : '<' ∉ heading.name

/-!
# Reading what was rendered
-/

theorem readLink?_link {heading : Heading} (h : heading.IsLinkable) (rest : Text) :
    readLink? ("<li>".toList ++ link heading ++ rest) = some (heading.id, heading.name, rest) := by
  have htext : "<li>".toList ++ link heading ++ rest =
      "<li><a href=\"#".toList ++ (heading.id ++ '"' :: '>' ::
        (heading.name ++ '<' :: ("/a>".toList ++ rest))) := by
    have hstart : "<li><a href=\"#".toList = "<li>".toList ++ "<a href=\"#".toList := rfl
    have hlink : link heading = "<a href=\"#".toList ++ heading.id ++ ['"', '>'] ++ heading.name ++
        '<' :: "/a>".toList := rfl
    simp only [hlink, hstart, List.append_assoc, List.cons_append, List.nil_append]
  have hcontent : forall s : Text, Text.after? "\">" ('"' :: '>' :: s) = some s := fun _ => rfl
  have hrest : Text.after? "</a>" ('<' :: ("/a>".toList ++ rest)) = some rest := rfl
  rw [htext, readLink?, Text.after?_append]
  simp only [Option.bind_eq_bind, Option.bind_some]
  rw [Text.takeWhile_ne_append h.id, Text.dropWhile_ne_append h.id, hcontent]
  simp only [Option.bind_some]
  rw [Text.takeWhile_ne_append h.name, Text.dropWhile_ne_append h.name, hrest]
  rfl

theorem readLink?_closing (rest : Text) : readLink? ("</ul>".toList ++ rest) = none := rfl

theorem render_eq (entries : List Entry) :
    render entries = "<ul>".toList ++ renderItems entries ++ "</ul>".toList := rfl

theorem readList?_render {reader : Text -> Option (List Item × Text)} {entries : List Entry}
    {rest : Text}
    (h : reader (renderItems entries ++ ("</ul>".toList ++ rest)) =
      some (items entries, "</ul>".toList ++ rest)) :
    readList? reader (render entries ++ rest) = some (items entries, rest) := by
  have htext : render entries ++ rest =
      "<ul>".toList ++ (renderItems entries ++ ("</ul>".toList ++ rest)) := by
    rw [render_eq, List.append_assoc, List.append_assoc]
  rw [htext, readList?, Text.after?_append]
  simp only [Option.bind_eq_bind, Option.bind_some, h]
  rw [Text.after?_append]
  rfl

theorem readBelow?_render (heading : Heading) {reader : Text -> Option (List Item × Text)}
    {entries : List Entry} {rest : Text}
    (h : readList? reader (render entries ++ rest) = some (items entries, rest)) :
    readBelow? reader heading.id heading.name (render entries ++ rest) =
      some (Item.branch heading.id heading.name (items entries), rest) := by
  have hstarts : Text.startsWith "<ul>" (render entries ++ rest) = true := rfl
  rw [readBelow?, if_pos hstarts, h]
  rfl

theorem renderItems_leaf (heading : Heading) (others : List Entry) :
    renderItems (Entry.node heading [] :: others) =
      "<li>".toList ++ link heading ++ ("</li>".toList ++ renderItems others) :=
  List.append_assoc ("<li>".toList ++ link heading) "</li>".toList (renderItems others)

theorem renderItems_branch (heading : Heading) (child : Entry) (children others : List Entry) :
    renderItems (Entry.node heading (child :: children) :: others) =
      "<li>".toList ++ link heading ++
        (render (child :: children) ++ ("</li>".toList ++ renderItems others)) := by
  have hitems : renderItems (Entry.node heading (child :: children) :: others) =
      "<li>".toList ++ link heading ++ render (child :: children) ++ "</li>".toList ++
        renderItems others := rfl
  rw [hitems, List.append_assoc, List.append_assoc]

theorem readItems?_item {fuel : Nat} {heading : Heading} {below behind rest : Text} {item : Item}
    {others : List Item} (hheading : heading.IsLinkable)
    (hbelow : readBelow? (readItems? fuel) heading.id heading.name
      (below ++ ("</li>".toList ++ behind)) = some (item, "</li>".toList ++ behind))
    (hbehind : readItems? fuel behind = some (others, rest)) :
    readItems? (fuel + 1) ("<li>".toList ++ link heading ++ (below ++ ("</li>".toList ++ behind))) =
      some (item :: others, rest) := by
  rw [readItems?, readLink?_link hheading]
  simp only [Option.bind_eq_bind, hbelow, Option.bind_some]
  rw [Text.after?_append]
  simp only [Option.bind_some, hbehind]

theorem readItems?_renderItems {fuel : Nat} {entries : List Entry} {rest : Text}
    (hlinkable : forall heading, heading ∈ preorderAll entries -> heading.IsLinkable)
    (hrest : readLink? rest = none) (hfuel : (renderItems entries).length < fuel) :
    readItems? fuel (renderItems entries ++ rest) = some (items entries, rest) := by
  induction fuel generalizing entries rest with
  | zero =>
      omega
  | succ fuel ih =>
      have hstart : "<li>".toList.length = 4 := rfl
      match entries with
      | [] =>
          rw [renderItems, List.nil_append, readItems?, hrest, items]
      | Entry.node heading [] :: others =>
          rw [preorderAll, Entry.preorder, List.cons_append, List.forall_mem_cons] at hlinkable
          rw [renderItems_leaf] at hfuel ⊢
          simp only [List.length_append] at hfuel
          have hothers : readItems? fuel (renderItems others ++ rest) = some (items others, rest) :=
            ih hlinkable.2 hrest (by omega)
          have hbelow : readBelow? (readItems? fuel) heading.id heading.name
              ([] ++ ("</li>".toList ++ (renderItems others ++ rest))) =
                some (Item.leaf heading.id heading.name,
                  "</li>".toList ++ (renderItems others ++ rest)) := rfl
          have hitem := readItems?_item hlinkable.1 hbelow hothers
          rw [List.nil_append] at hitem
          rw [List.append_assoc, List.append_assoc]
          exact hitem
      | Entry.node heading (child :: children) :: others =>
          rw [preorderAll, Entry.preorder, List.cons_append, List.forall_mem_cons,
            List.forall_mem_append] at hlinkable
          rcases hlinkable with ⟨hheading, hchildren, hothers⟩
          have hrender : (render (child :: children)).length =
              "<ul>".toList.length + (renderItems (child :: children)).length +
                "</ul>".toList.length := by
            rw [render_eq, List.length_append, List.length_append]
          rw [renderItems_branch] at hfuel ⊢
          simp only [List.length_append] at hfuel
          have hbehind : readItems? fuel (renderItems others ++ rest) = some (items others, rest) :=
            ih hothers hrest (by omega)
          have hlist := readList?_render
            (ih hchildren (readLink?_closing ("</li>".toList ++ (renderItems others ++ rest)))
              (by omega))
          rw [List.append_assoc, List.append_assoc, List.append_assoc]
          exact readItems?_item hheading (readBelow?_render heading hlist) hbehind

theorem read?_render {entries : List Entry}
    (h : forall heading, heading ∈ preorderAll entries -> heading.IsLinkable) :
    read? (render entries) = some (items entries) := by
  have hlength : (renderItems entries).length < (render entries).length := by
    have hopening : "<ul>".toList.length = 4 := rfl
    rw [render_eq, List.length_append, List.length_append]
    omega
  have hitems := readItems?_renderItems h (readLink?_closing []) hlength
  have hlist := readList?_render hitems
  rw [List.append_nil] at hlist
  rw [read?, hlist]

end Toc
end Folio
