import Folio.Markdown.Reader

/-!
# Blocks of a dialect

A dialect without tables, notes or definitions never opens a block of that kind.  Lines
only change the branch of open blocks by opening blocks that the dialect has, by closing
blocks, and by changes within a block, so that all blocks of a tree are of its kinds.
-/

namespace Folio
namespace Markdown

def Dialect.has (dialect : Dialect) : Kind -> Bool
  | Kind.note _ => dialect.notes
  | Kind.table _ => dialect.tables
  | Kind.row => dialect.tables
  | Kind.cell => dialect.tables
  | Kind.definitions => dialect.definitions
  | Kind.definition _ _ => dialect.definitions
  | Kind.term => dialect.definitions
  | Kind.details => dialect.definitions
  | _ => true

/-- A node with all nodes in it is of a dialect. -/
inductive Node.IsOf (dialect : Dialect) : Node -> Prop where
  | node {kind : Kind} {s : Text} {blank : Bool} {children : List Node}
      (hkind : dialect.has kind = true)
      (hchildren : forall child, child ∈ children -> child.IsOf dialect) :
      IsOf dialect (Node.node kind s blank children)

structure Frame.IsOf (dialect : Dialect) (frame : Frame) : Prop where
  kind : dialect.has frame.kind = true
  children : forall child, child ∈ frame.children -> child.IsOf dialect

def FramesOf (dialect : Dialect) (frames : List Frame) : Prop :=
  forall frame, frame ∈ frames -> frame.IsOf dialect

variable {dialect : Dialect}

theorem Node.IsOf.markBlank {node : Node} (h : node.IsOf dialect) :
    node.markBlank.IsOf dialect := by
  cases h with
  | node hkind hchildren =>
      exact Node.IsOf.node hkind hchildren

theorem Node.IsOf.ofText {kind : Kind} (h : dialect.has kind = true) (s : Text) :
    (Node.node kind s false []).IsOf dialect :=
  Node.IsOf.node h (List.forall_mem_nil _)

/-!
# Open blocks
-/

namespace Frame

theorem isOf_ofKind {kind : Kind} (h : dialect.has kind = true) :
    (Frame.ofKind kind).IsOf dialect where
  kind := h
  children := List.forall_mem_nil _

variable {frame : Frame}

theorem IsOf.addLine (h : frame.IsOf dialect) (line : Text) :
    (frame.addLine line).IsOf dialect :=
  ⟨h.kind, h.children⟩

theorem IsOf.addChild (h : frame.IsOf dialect) {child : Node} (hchild : child.IsOf dialect) :
    (frame.addChild child).IsOf dialect :=
  ⟨h.kind, List.forall_mem_cons.mpr ⟨hchild, h.children⟩⟩

theorem IsOf.toNode (h : frame.IsOf dialect) : frame.toNode.IsOf dialect :=
  Node.IsOf.node h.kind fun child hchild => h.children child (List.mem_reverse.mp hchild)

theorem IsOf.decideTight (h : frame.IsOf dialect) : frame.decideTight.IsOf dialect := by
  unfold Frame.decideTight
  split
  · exact ⟨rfl, h.children⟩
  · exact h

theorem IsOf.close (h : frame.IsOf dialect) {references : References} {node : Node}
    (hclose : (frame.close references).2 = some node) : node.IsOf dialect := by
  unfold Frame.close at hclose
  split at hclose
  · dsimp only at hclose
    split at hclose
    · cases hclose
    · cases hclose
      have hpart : Frame.IsOf dialect
          { frame with lines := [(takeDefinitions frame.text.length references frame.text).2] } :=
        ⟨h.kind, h.children⟩
      exact hpart.toNode
  · cases hclose
    exact h.decideTight.toNode

end Frame

namespace FramesOf

variable {frames others : List Frame}

theorem append (h : FramesOf dialect frames) (hothers : FramesOf dialect others) :
    FramesOf dialect (frames ++ others) :=
  List.forall_mem_append.mpr ⟨h, hothers⟩

theorem reverse (h : FramesOf dialect frames) : FramesOf dialect frames.reverse :=
  fun frame hframe => h frame (List.mem_reverse.mp hframe)

end FramesOf

/-!
# Branches
-/

namespace Branch

def IsOf (dialect : Dialect) (branch : Branch) : Prop :=
  FramesOf dialect branch.frames

namespace IsOf

variable {branch : Branch}

theorem of_frames (h : branch.IsOf dialect) {frame : Frame} {rest : List Frame}
    (hframes : branch.frames = frame :: rest) :
    frame.IsOf dialect ∧ FramesOf dialect rest := by
  rw [Branch.IsOf, hframes] at h
  exact List.forall_mem_cons.mp h

theorem push (h : branch.IsOf dialect) {kind : Kind} (hkind : dialect.has kind = true) :
    (branch.push kind).IsOf dialect :=
  List.forall_mem_cons.mpr ⟨Frame.isOf_ofKind hkind, h⟩

theorem modify (h : branch.IsOf dialect) {f : Frame -> Frame}
    (hf : forall frame, frame.IsOf dialect -> (f frame).IsOf dialect) :
    (branch.modify f).IsOf dialect := by
  rcases branch with ⟨_ | ⟨frame, rest⟩, references⟩
  · exact h
  · rcases List.forall_mem_cons.mp h with ⟨hframe, hrest⟩
    exact List.forall_mem_cons.mpr ⟨hf frame hframe, hrest⟩

theorem addText (h : branch.IsOf dialect) (line : Text) :
    (branch.modify (Frame.addLine line)).IsOf dialect :=
  h.modify fun _ hframe => hframe.addLine line

theorem closeTop (h : branch.IsOf dialect) : branch.closeTop.IsOf dialect := by
  rcases branch with ⟨_ | ⟨frame, rest⟩, references⟩
  · exact h
  · rcases List.forall_mem_cons.mp h with ⟨hframe, hrest⟩
    unfold Branch.closeTop
    dsimp only
    split
    · rename_i node parent others hclose
      rcases List.forall_mem_cons.mp hrest with ⟨hparent, hothers⟩
      exact List.forall_mem_cons.mpr ⟨hparent.addChild (hframe.close hclose), hothers⟩
    · exact hrest

theorem closeMany (h : branch.IsOf dialect) (count : Nat) :
    (branch.closeMany count).IsOf dialect := by
  induction count generalizing branch with
  | zero =>
      exact h
  | succ count ih =>
      exact ih h.closeTop

theorem closeFor (h : branch.IsOf dialect) (kind : Kind) (fuel : Nat) :
    (branch.closeFor kind fuel).IsOf dialect := by
  induction fuel generalizing branch with
  | zero =>
      exact h
  | succ fuel ih =>
      unfold Branch.closeFor
      split
      · split
        · exact h
        · exact ih h.closeTop
      · exact h

theorem addChild (h : branch.IsOf dialect) {kind : Kind} (hkind : dialect.has kind = true) :
    (branch.addChild kind).IsOf dialect :=
  (h.closeFor kind _).push hkind

end IsOf

end Branch

/-!
# Opening blocks
-/

namespace Progress

structure IsOf (dialect : Dialect) (p : Progress) : Prop where
  branch : p.branch.IsOf dialect
  left : FramesOf dialect p.left

namespace IsOf

variable {p : Progress}

theorem closeLeft (h : p.IsOf dialect) : p.closeLeft.IsOf dialect where
  branch := by
    have hall : Branch.IsOf dialect
        { frames := p.left.reverse ++ p.branch.frames, references := p.branch.references } :=
      h.left.reverse.append h.branch
    exact hall.closeMany _
  left := List.forall_mem_nil _

theorem settleList (h : p.IsOf dialect) (kind : Kind) : (p.settleList kind).IsOf dialect := by
  unfold Progress.settleList
  split
  · rename_i frame rest node hframes _
    rcases h.branch.of_frames hframes with ⟨hframe, hrest⟩
    split
    · exact h
    · refine ⟨List.forall_mem_cons.mpr ⟨⟨?_, hframe.children⟩, hrest⟩, h.left⟩
      unfold Frame.decideTight
      split
      · rfl
      · exact hframe.kind
  · exact h

theorem openBlock (h : p.IsOf dialect) {kind : Kind} (hkind : dialect.has kind = true)
    (line : Line) : (p.openBlock kind line).IsOf dialect := by
  have hclosed := (h.settleList kind).closeLeft
  exact ⟨hclosed.branch.addChild hkind, hclosed.left⟩

theorem addTerm {width : Nat} {tight : Bool} {term : Node} {branch : Branch}
    (h : branch.IsOf dialect) (hdefinitions : dialect.definitions = true)
    (hterm : term.IsOf dialect) : (Progress.addTerm width tight term branch).IsOf dialect := by
  unfold Progress.addTerm
  dsimp only
  refine Branch.IsOf.push (Branch.IsOf.modify (Branch.IsOf.push ?_ ?_) ?_) hdefinitions
  · split
    · rename_i frame rest hframes
      rcases h.of_frames hframes with ⟨hframe, hrest⟩
      split
      · rename_i s blank nodes before hchildren
        have hall := hframe.children
        rw [hchildren] at hall
        rcases List.forall_mem_cons.mp hall with ⟨hlist, hbefore⟩
        cases hlist with
        | node hkind hnodes =>
            refine List.forall_mem_cons.mpr ⟨⟨hkind, ?_⟩, List.forall_mem_cons.mpr ⟨?_, hrest⟩⟩
            · exact fun child hchild => hnodes child (List.mem_reverse.mp hchild)
            · exact ⟨hframe.kind, hbefore⟩
      · exact h.addChild hdefinitions
    · exact h
  · exact hdefinitions
  · intro frame hframe
    apply hframe.addChild
    exact Node.IsOf.node hdefinitions (List.forall_mem_singleton.mpr hterm)

theorem pushDetails {branch : Branch} (h : branch.IsOf dialect)
    (hdefinitions : dialect.definitions = true) (width : Nat) (tight : Bool) :
    ((branch.push (Kind.definition width tight)).push Kind.details).IsOf dialect := by
  have hdefinition : dialect.has (Kind.definition width tight) = true := hdefinitions
  exact (h.push hdefinition).push hdefinitions

theorem openDetails (h : p.IsOf dialect) (hdefinitions : dialect.definitions = true)
    {width : Nat} {branch : Branch} (hopen : p.openDetails width = some branch) :
    branch.IsOf dialect := by
  unfold Progress.openDetails at hopen
  split at hopen
  · cases hopen
    exact pushDetails h.closeLeft.branch hdefinitions _ _
  · cases hopen
  · split at hopen
    · cases hopen
    · rename_i frame rest hframes
      rcases h.branch.of_frames hframes with ⟨hframe, hrest⟩
      split at hopen
      · split at hopen
        · cases hopen
          exact addTerm hrest hdefinitions hframe.toNode
        · cases hopen
      · rename_i tried s blank nodes before hchildren
        cases hopen
        have hall := hframe.children
        rw [hchildren] at hall
        rcases List.forall_mem_cons.mp hall with ⟨hterm, hbefore⟩
        exact addTerm (List.forall_mem_cons.mpr ⟨⟨hframe.kind, hbefore⟩, hrest⟩) hdefinitions hterm
      · cases hopen
        exact pushDetails h.branch hdefinitions _ _
      · cases hopen

/-!
# Tables and items
-/

theorem rowNode (htables : dialect.tables = true) (cells : List Text) :
    (Progress.rowNode cells).IsOf dialect := by
  have hcell : dialect.has Kind.cell = true := htables
  refine Node.IsOf.node htables ?_
  intro child hchild
  rcases List.mem_map.mp hchild with ⟨cell, _, rfl⟩
  exact Node.IsOf.ofText hcell cell

theorem openTable (h : p.IsOf dialect) (htables : dialect.tables = true) :
    p.openTable.IsOf dialect := by
  unfold Progress.openTable
  split
  · rename_i frame rest hframes
    rcases h.branch.of_frames hframes with ⟨hframe, hrest⟩
    dsimp only
    split
    · have htried : FramesOf dialect ({ frame with kind := Kind.paragraph true } :: rest) :=
        List.forall_mem_cons.mpr ⟨⟨rfl, hframe.children⟩, hrest⟩
      split
      · split
        · refine ⟨List.forall_mem_cons.mpr ⟨⟨htables, ?_⟩, ?_⟩, h.left⟩
          · exact List.forall_mem_singleton.mpr (rowNode htables _)
          · split
            · rename_i parent others
              rcases List.forall_mem_cons.mp hrest with ⟨hparent, hothers⟩
              refine List.forall_mem_cons.mpr ⟨⟨hparent.kind, ?_⟩, hothers⟩
              refine List.forall_mem_append.mpr ⟨?_, hparent.children⟩
              split
              · exact List.forall_mem_nil _
              · exact List.forall_mem_singleton.mpr (Node.IsOf.ofText rfl _)
            · exact List.forall_mem_nil _
        · exact ⟨htried, h.left⟩
      · exact ⟨htried, h.left⟩
    · exact h
  · exact h

theorem openRow (h : p.IsOf dialect) (htables : dialect.tables = true) {columns : Nat}
    {next : Progress} (hopen : p.openRow columns = some next) : next.IsOf dialect := by
  unfold Progress.openRow at hopen
  split at hopen
  · cases hopen
  · split at hopen
    · cases hopen
      have hkind : dialect.has Kind.row = true := htables
      have hrow := h.openBlock hkind p.line.skipAll
      refine ⟨hrow.branch.modify ?_, hrow.left⟩
      intro frame hframe
      refine ⟨hframe.kind, ?_⟩
      intro child hchild
      cases rowNode htables _ with
      | node hkind hcells =>
          exact hcells child (List.mem_reverse.mp hchild)
    · cases hopen

theorem openItem (h : p.IsOf dialect) (marker : Marker) (length number : Nat) :
    (p.openItem marker length number).IsOf dialect := by
  unfold Progress.openItem
  dsimp only
  split
  · split
    · exact h.openBlock rfl _
    · exact (h.openBlock rfl _).openBlock rfl _
  · exact (h.openBlock rfl _).openBlock rfl _

theorem underline (h : p.IsOf dialect) (level : Nat) : (p.underline level).IsOf dialect := by
  unfold Progress.underline
  split
  · rename_i frame rest hframes
    rcases h.branch.of_frames hframes with ⟨hframe, hrest⟩
    dsimp only
    split
    · exact ⟨List.forall_mem_cons.mpr ⟨⟨hframe.kind, hframe.children⟩, hrest⟩, h.left⟩
    · exact ⟨List.forall_mem_cons.mpr ⟨⟨rfl, hframe.children⟩, hrest⟩, h.left⟩
  · exact h

/-!
# The order of attempts
-/

theorem openUnindented (h : p.IsOf dialect) {container : Kind} {depth : Nat} {next : Progress}
    (hopen : p.openUnindented? dialect container depth = some next) : next.IsOf dialect := by
  unfold Progress.openUnindented? at hopen
  dsimp only at hopen
  split at hopen
  · cases hopen
    exact h.openBlock rfl _
  · split at hopen
    · cases hopen
      exact h.openBlock rfl _
    · split at hopen
      · cases hopen
        exact h.openBlock rfl _
      · split at hopen
        · cases hopen
          exact h.openBlock rfl _
        · split at hopen
          · cases hopen
            exact h.underline _
          · split at hopen
            · cases hopen
              exact h.openBlock rfl _
            · split at hopen
              · rename_i name length hnote
                cases hopen
                apply h.openBlock
                split at hnote
                · rename_i hnotes
                  rw [Bool.and_eq_true] at hnotes
                  exact hnotes.1
                · cases hnote
              · split at hopen
                · rename_i length hdetails
                  rw [Option.map_eq_some_iff] at hopen
                  rcases hopen with ⟨branch, hbranch, rfl⟩
                  split at hdetails
                  · rename_i hdefinitions
                    exact ⟨h.openDetails hdefinitions hbranch, List.forall_mem_nil _⟩
                  · cases hdetails
                · cases hopen

theorem openNext (h : p.IsOf dialect) {lazyLine : Bool} {depth number : Nat} {next : Progress}
    (hopen : p.openNext? dialect lazyLine depth number = some next) : next.IsOf dialect := by
  unfold Progress.openNext? at hopen
  split at hopen
  · cases hopen
  · dsimp only at hopen
    split at hopen
    · rename_i opened hopened
      cases hopen
      split at hopened
      · cases hopened
      · exact h.openUnindented hopened
    · split at hopen
      · cases hopen
        exact h.openItem _ _ _
      · split at hopen
        · split at hopen
          · cases hopen
            exact h.openBlock rfl _
          · cases hopen
        · split at hopen
          · rename_i htables
            split at hopen
            · cases hopen
              exact h.openTable htables
            · exact h.openRow htables hopen
            · cases hopen
          · cases hopen

theorem openAll (h : p.IsOf dialect) (number fuel : Nat) (lazyLine : Bool) (depth : Nat) :
    (p.openAll dialect number fuel lazyLine depth).IsOf dialect := by
  induction fuel generalizing p lazyLine depth with
  | zero =>
      exact h
  | succ fuel ih =>
      unfold Progress.openAll
      split
      · exact h
      · split
        · exact h
        · split
          · exact h
          · rename_i next hopen
            have hnext := h.openNext hopen
            split
            · exact hnext
            · split
              · exact hnext
              · exact ih hnext _ _

/-!
# Text
-/

theorem markBlank (h : p.IsOf dialect) (number : Nat) : (p.markBlank number).IsOf dialect := by
  unfold Progress.markBlank
  dsimp only
  split
  · exact h
  · rename_i frame outer hframes
    rcases h.branch.of_frames hframes with ⟨hframe, houter⟩
    refine ⟨List.forall_mem_cons.mpr ⟨⟨hframe.kind, ?_⟩, ?_⟩, ?_⟩
    · have hchildren := hframe.children
      dsimp only
      split
      · rename_i last before heq
        rw [heq] at hchildren
        rcases List.forall_mem_cons.mp hchildren with ⟨hlast, hbefore⟩
        refine List.forall_mem_cons.mpr ⟨?_, hbefore⟩
        split
        · exact hlast.markBlank
        · exact hlast
      · exact hchildren
    · intro inner hinner
      rcases List.mem_map.mp hinner with ⟨other, hother, rfl⟩
      exact ⟨(houter other hother).kind, (houter other hother).children⟩
    · have hleft := h.left
      dsimp only
      split
      · rename_i first inner heq
        rw [heq] at hleft
        rcases List.forall_mem_cons.mp hleft with ⟨hfirst, hinner⟩
        exact List.forall_mem_cons.mpr ⟨⟨hfirst.kind, hfirst.children⟩, hinner⟩
      · exact List.forall_mem_nil _

theorem addText (h : p.IsOf dialect) : p.addText.IsOf dialect := by
  unfold Progress.addText
  split
  · have hall : FramesOf dialect (p.left.reverse ++ p.branch.frames) :=
      h.left.reverse.append h.branch
    show FramesOf dialect _
    dsimp only
    split
    · rename_i frame outer heq
      rw [heq] at hall
      rcases List.forall_mem_cons.mp hall with ⟨hframe, houter⟩
      exact List.forall_mem_cons.mpr ⟨hframe.addLine _, houter⟩
    · exact List.forall_mem_nil _
  · have hclosed := h.closeLeft.branch
    dsimp only
    split
    · exact hclosed
    · split
      · exact (hclosed.addText _).closeTop
      · exact hclosed.addText _
    · split
      · exact hclosed.addText _
      · split
        · exact hclosed
        · split
          · exact hclosed.addText _
          · exact hclosed.addText _
          · exact hclosed.addText _
          · exact (hclosed.addChild rfl).addText _

end IsOf

end Progress

/-!
# Documents
-/

theorem FramesOf.follow {whole : Text} {matched frames left kept : List Frame}
    {line rest : Line} (hmatched : FramesOf dialect matched) (hframes : FramesOf dialect frames)
    (h : Markdown.follow whole matched frames line = some (kept, left, rest)) :
    FramesOf dialect kept ∧ FramesOf dialect left := by
  induction frames generalizing matched line with
  | nil =>
      cases h
      exact ⟨hmatched, hframes⟩
  | cons frame inner ih =>
      rcases List.forall_mem_cons.mp hframes with ⟨hframe, hinner⟩
      unfold Markdown.follow at h
      split at h
      · exact ih (List.forall_mem_cons.mpr ⟨hframe, hmatched⟩) hinner h
      · cases h
        exact ⟨hmatched, hframes⟩
      · cases h

theorem Branch.IsOf.readLine {branch : Branch} (h : branch.IsOf dialect) (number : Nat)
    (whole : Text) (start : Line) : (branch.readLine dialect number whole start).IsOf dialect := by
  unfold Branch.readLine
  split
  · exact h.closeTop
  · rename_i matched left line hfollow
    have hnone : FramesOf dialect [] := List.forall_mem_nil _
    rcases hnone.follow (FramesOf.reverse h) hfollow with ⟨hmatched, hleft⟩
    have hstart : Progress.IsOf dialect
        { branch := { branch with frames := matched }, left := left, line := line, opened := false } :=
      ⟨hmatched, hleft⟩
    exact ((hstart.openAll number _ _ 0).markBlank number).addText

theorem Branch.IsOf.readLines {branch : Branch} (h : branch.IsOf dialect) (number : Nat)
    (lines : List Text) : (Markdown.readLines dialect number lines branch).IsOf dialect := by
  induction lines generalizing number branch with
  | nil =>
      exact h
  | cons line lines ih =>
      exact ih (h.readLine number line _) (number + 1)

theorem isOf_readBlocks (dialect : Dialect) (source : Text) :
    forall node, node ∈ (readBlocks dialect source).1 -> node.IsOf dialect := by
  have hstart : Branch.IsOf dialect
      { frames := [Frame.ofKind Kind.document], references := [] } :=
    List.forall_mem_singleton.mpr (Frame.isOf_ofKind rfl)
  have hread := hstart.readLines 1 (sourceLines [] source)
  have hclosed := hread.closeMany
  unfold readBlocks
  dsimp only
  split
  · rename_i document others heq
    have hframes : FramesOf dialect (document :: others) := heq ▸ hclosed _
    intro node hnode
    exact (List.forall_mem_cons.mp hframes).1.children node (List.mem_reverse.mp hnode)
  · intro node hnode
    cases hnode

end Markdown
end Folio
