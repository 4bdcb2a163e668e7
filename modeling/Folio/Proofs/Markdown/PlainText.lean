import Folio.Proofs.Markdown.PendingContent
import Folio.Proofs.Markdown.RunImages

/-!
# The plain text of a run

A run is divided into images, each from its beginning to the end that belongs to it, and the events
outside of them. Images within an image are part of it.

A container has the plain text of its run, and an image that of the events within it, but for one
thing: a line break within an image does not become part of its text. Its newline is put into the
text of the container, in front of the text of the image.
-/

namespace Folio.Markdown

open Token

/-! ## Plain text -/

/-- The plain text of an event. Markup has none. -/
def Event.plainText : Event → String
  | text content | code content => content
  | softBreak | hardBreak => "\n"
  | _ => ""

def plainText (events : List Event) : String :=
  String.join (events.map Event.plainText)

@[simp] theorem plainText_nil : plainText [] = "" :=
  rfl

@[simp] theorem plainText_cons (e : Event) (rest : List Event) :
    plainText (e :: rest) = e.plainText ++ plainText rest := by
  simp [plainText]

@[simp] theorem plainText_append (xs ys : List Event) :
    plainText (xs ++ ys) = plainText xs ++ plainText ys := by
  simp [plainText]

def breaks (events : List Event) : List Event :=
  events.filter (· = .hardBreak)

def unbroken (events : List Event) : List Event :=
  events.filter (· ≠ .hardBreak)

theorem breaks_append (xs ys : List Event) : breaks (xs ++ ys) = breaks xs ++ breaks ys :=
  List.filter_append ..

theorem unbroken_append (xs ys : List Event) : unbroken (xs ++ ys) = unbroken xs ++ unbroken ys :=
  List.filter_append ..

theorem breaks_eq_nil {events : List Event} (h : .hardBreak ∉ events) : breaks events = [] := by
  rw [breaks, List.filter_eq_nil_iff]
  rintro e he heq
  exact h (of_decide_eq_true heq ▸ he)

theorem unbroken_eq {events : List Event} (h : .hardBreak ∉ events) : unbroken events = events := by
  rw [unbroken, List.filter_eq_self]
  intro e he
  exact decide_eq_true fun heq => h (heq ▸ he)

theorem length_plainText_unbroken (events : List Event) :
    (plainText (unbroken events)).length + (breaks events).length = (plainText events).length := by
  induction events with
  | nil => rfl
  | cons e rest ih =>
    rw [plainText_cons, String.length_append, ← ih]
    by_cases he : e = .hardBreak
    · subst he
      have hnewline : Event.hardBreak.plainText.length = 1 := rfl
      simp [breaks, unbroken, hnewline]
      omega
    · simp [breaks, unbroken, he, String.length_append]
      omega

theorem plainText_unbroken_eq_iff {events : List Event} :
    plainText (unbroken events) = plainText events ↔ .hardBreak ∉ events := by
  refine ⟨fun h hmem => ?_, fun h => by rw [unbroken_eq h]⟩
  have hlength := length_plainText_unbroken events
  rw [h] at hlength
  have hbreak : .hardBreak ∈ breaks events := by simpa [breaks] using hmem
  rw [List.eq_nil_of_length_eq_zero (by omega : (breaks events).length = 0)] at hbreak
  simp at hbreak

/-! ## Pieces of a run -/

/-- The images among pieces, each by its source and the events within. -/
def imagesIn (ps : List Piece) : List (String × List Event) :=
  ps.filterMap fun
    | .event _ => none
    | .image source _ inner => some (source, inner)

def Piece.text : Piece → String
  | event e => e.plainText
  | image _ _ inner => plainText (breaks inner) ++ plainText (unbroken inner)

variable {run : List Event} {ps qs : List Piece}

/-- Without line breaks in images, the pieces leave the plain text of the run. -/
theorem Divides.join_text (h : Divides run ps) (hps : ∀ i ∈ imagesIn ps, .hardBreak ∉ i.2) :
    String.join (ps.map Piece.text) = plainText run := by
  induction h with
  | nil => rfl
  | event _ _ ih =>
    have hrest := ih hps
    simp [Piece.text, hrest]
  | @image source title inner rest qs ps _ _ _ ih =>
    obtain ⟨hinner, hps⟩ := List.forall_mem_cons.mp hps
    have hrest := ih hps
    have hstart : (Event.enter (.image source title)).plainText = "" := rfl
    have hend : (Event.leave (.image source title)).plainText = "" := rfl
    simp [Piece.text, hrest, breaks_eq_nil hinner, unbroken_eq hinner, hstart, hend]

/-! ## What is collected -/

def images (ts : List Token) : List Token :=
  ts.filter (·.kind = .image)

@[simp] theorem images_append (xs ys : List Token) : images (xs ++ ys) = images xs ++ images ys :=
  List.filter_append ..

/-- What is read of an image: its source and its alternative text. -/
def imageReading (t : Token) : Option String × String :=
  (t.attr? "src", t.content)

section Collecting

variable {e : Event} (source : String) (children : List Token)

/-- Within an image, line breaks go to the container and all other text to the image. -/
theorem change_within (he : e.isImageMark = false) (i : PendingImage) :
    e.change ⟨source, children, some i⟩ =
      ⟨source ++ plainText (breaks [e]), children,
        some { i with alternative := i.alternative ++ plainText (unbroken [e]) }⟩ := by
  cases e with
  | enter x | leave x =>
    cases x <;> simp_all [Event.isImageMark, Event.change, InlineBuffer.addHtml, breaks, unbroken,
      Event.plainText, Element.startHtml?, Element.endHtml?]
  | _ => simp [Event.change, InlineBuffer.addText, InlineBuffer.addCode, InlineBuffer.addLeaf,
      InlineBuffer.addHtml, InlineBuffer.addBreak, breaks, unbroken, Event.plainText]

theorem change_outside (he : e.isImageMark = false) :
    ∃ leaves, images leaves = [] ∧
      e.change ⟨source, children, none⟩ = ⟨source ++ e.plainText, children ++ leaves, none⟩ := by
  cases e with
  | enter x | leave x =>
    cases x with
    | image _ _ => simp [Event.isImageMark] at he
    | emphasis | strong | strikethrough | link _ _ => exact ⟨[_], rfl, by simp [Event.plainText]; rfl⟩
    | _ => exact ⟨[], rfl, by simp [Event.plainText]; rfl⟩
  | rule => exact ⟨[], rfl, by simp [Event.plainText]; rfl⟩
  | _ => exact ⟨[_], rfl, by simp [Event.plainText]; rfl⟩

theorem changed_within (h : Divides run ps) (i : PendingImage) :
    changed ⟨source, children, some i⟩ run =
      ⟨source ++ plainText (breaks run), children,
        some { i with alternative := i.alternative ++ plainText (unbroken run) }⟩ := by
  -- An image further inside only deepens the pending one while it lasts.
  induction h generalizing source i with
  | nil => simp [changed, breaks, unbroken]
  | @event e rest ps he _ ih =>
    have hbreaks : breaks (e :: rest) = breaks [e] ++ breaks rest := breaks_append [e] rest
    have hunbroken : unbroken (e :: rest) = unbroken [e] ++ unbroken rest := unbroken_append [e] rest
    rw [changed_cons, change_within source children he, ih, hbreaks, hunbroken]
    simp [String.append_assoc]
  | @image path title inner rest qs ps _ _ ihinner ih =>
    have hstart : (Event.enter (.image path title)).change ⟨source, children, some i⟩ =
        ⟨source, children, some { i with depth := i.depth + 1 }⟩ := rfl
    have hend : ∀ source alternative, (Event.leave (.image path title)).change
        ⟨source, children, some ⟨i.source, i.title, alternative, i.depth + 1⟩⟩ =
          ⟨source, children, some { i with alternative }⟩ := fun _ _ => rfl
    rw [List.cons_append, changed_cons, hstart, changed_append, ihinner, changed_cons, hend, ih]
    simp [breaks, unbroken, Event.plainText, String.append_assoc]

/-- An image of which all but the end has been read. -/
def readImage (path title : String) (inner : List Event) : PendingImage :=
  ⟨path, title, plainText (unbroken inner), 0⟩

theorem changed_image {path title : String} {inner : List Event} (hinner : Divides inner qs) :
    ∃ t, images [t] = [t] ∧ imageReading t = (some path, plainText (unbroken inner)) ∧
      changed ⟨source, children, none⟩
          (.enter (.image path title) :: inner ++ [.leave (.image path title)]) =
        ⟨source ++ (Piece.image path title inner).text, children ++ [t], none⟩ := by
  obtain ⟨hkind, hsource, hcontent⟩ := InlineBuffer.imageToken_reads (readImage path title inner)
  refine ⟨InlineBuffer.imageToken (readImage path title inner), by simp [images, hkind],
    by rw [imageReading, hsource, hcontent]; rfl, ?_⟩
  have hstart : (Event.enter (.image path title)).change ⟨source, children, none⟩ =
      ⟨source, children, some ⟨path, title, "", 0⟩⟩ := rfl
  have hend : ∀ source, (Event.leave (.image path title)).change
      ⟨source, children, some ⟨path, title, plainText (unbroken inner), 0⟩⟩ =
        ⟨source ++ plainText (unbroken inner),
          children ++ [InlineBuffer.imageToken (readImage path title inner)], none⟩ := fun _ => rfl
  rw [List.cons_append, changed_cons, hstart, changed_append, changed_within _ _ hinner,
    String.empty_append, changed_cons, hend]
  simp [changed, Piece.text, String.append_assoc]

theorem changed_outside (h : Divides run ps) :
    ∃ leaves, (images leaves).map imageReading =
        (imagesIn ps).map (fun i => (some i.1, plainText (unbroken i.2))) ∧
      changed ⟨source, children, none⟩ run =
        ⟨source ++ String.join (ps.map Piece.text), children ++ leaves, none⟩ := by
  induction h generalizing source children with
  | nil => exact ⟨[], rfl, by simp [changed]⟩
  | @event e rest ps he _ ih =>
    obtain ⟨first, hfirst, hchange⟩ := change_outside source children he
    obtain ⟨others, hothers, hrest⟩ := ih (source ++ e.plainText) (children ++ first)
    refine ⟨first ++ others, by simpa [hfirst, imagesIn] using hothers, ?_⟩
    rw [changed_cons, hchange, hrest]
    simp [Piece.text, String.append_assoc]
  | @image path title inner rest qs ps hinner _ _ ih =>
    obtain ⟨t, himage, hreading, hchanged⟩ := changed_image source children hinner
    obtain ⟨others, hothers, hrest⟩ :=
      ih (source ++ (Piece.image path title inner).text) (children ++ [t])
    have hsplit : Event.enter (.image path title) :: inner ++ .leave (.image path title) :: rest =
        (.enter (.image path title) :: inner ++ [.leave (.image path title)]) ++ rest := by simp
    refine ⟨t :: others, ?_, ?_⟩
    · have hcons : images (t :: others) = t :: images others := by
        rw [← List.singleton_append, images_append, himage]
        rfl
      rw [hcons, List.map_cons, hreading, hothers]
      rfl
    · rw [hsplit, changed_append, hchanged, hrest]
      simp [String.append_assoc]

end Collecting

/-- The text of a container, and what is read of its images. -/
theorem collected_of_divides (h : Divides run ps) :
    (collected run).token.content = String.join (ps.map Piece.text) ∧
      (images (collected run).token.children).map imageReading =
        (imagesIn ps).map (fun i => (some i.1, plainText (unbroken i.2))) := by
  obtain ⟨leaves, himages, hchanged⟩ := changed_outside "" [] h
  rw [collected, InlineBuffer.empty, hchanged]
  simpa [InlineBuffer.token, Token.inline] using himages

/-! ## The text of a page -/

theorem siblingsInOrder_cons_of_page {t : Token} (ht : t.IsPageToken) (rest : List Token) :
    siblingsInOrder (t :: rest) = [t] ++ t.children ++ siblingsInOrder rest := by
  rw [siblingsInOrder, Token.inOrder_eq, siblingsInOrder_of_leaves ht.leaves]
  rfl

theorem containers_siblingsInOrder {ts : List Token} (h : ∀ t ∈ ts, t.IsPageToken) :
    containers (siblingsInOrder ts) = containers ts := by
  induction ts with
  | nil => rfl
  | cons t rest ih =>
    obtain ⟨ht, hrest⟩ := List.forall_mem_cons.mp h
    have hleaves : containers t.children = [] := by
      have hkinds : ∀ c ∈ t.children, c.kind ≠ .inline := by
        intro c hc hkind
        have hleaf := (ht.leaves c hc).isLeaf
        simp [hkind, Kind.isLeaf] at hleaf
      simpa [containers] using hkinds
    rw [siblingsInOrder_cons_of_page ht, containers_append, containers_append, hleaves, ih hrest,
      List.append_nil, ← containers_append]
    rfl

theorem images_siblingsInOrder {ts : List Token} (h : ∀ t ∈ ts, t.IsPageToken) :
    images (siblingsInOrder ts) = (containers ts).flatMap fun t => images t.children := by
  induction ts with
  | nil => rfl
  | cons t rest ih =>
    obtain ⟨ht, hrest⟩ := List.forall_mem_cons.mp h
    have hkind : images [t] = [] := by
      have hnot : t.kind ≠ .image := by
        intro hkind
        have hleaf := ht.notLeaf
        simp [hkind, Kind.isLeaf] at hleaf
      simpa [images] using hnot
    rw [siblingsInOrder_cons_of_page ht, images_append, images_append, hkind, ih hrest,
      List.nil_append]
    by_cases hinline : t.kind = .inline
    · simp [containers, hinline]
    · rw [ht.childless hinline]
      simp [containers, images, hinline]

theorem contents_of_divided {rs : List (List Event)} {divided : List (List Piece)}
    (h : List.Forall₂ Divides rs divided) :
    rs.map (fun run => (collected run).token.content) =
        divided.map (fun ps => String.join (ps.map Piece.text)) ∧
      (rs.flatMap fun run => images (collected run).token.children).map imageReading =
        (divided.flatMap imagesIn).map (fun i => (some i.1, plainText (unbroken i.2))) := by
  induction h with
  | nil => exact ⟨rfl, rfl⟩
  | cons hrun _ ih =>
    obtain ⟨hcontent, himages⟩ := collected_of_divides hrun
    simp [hcontent, himages, ih.1, ih.2]

theorem plainText_of_divided {rs : List (List Event)} {divided : List (List Piece)}
    (h : List.Forall₂ Divides rs divided)
    (hbreaks : ∀ i ∈ divided.flatMap imagesIn, .hardBreak ∉ i.2) :
    divided.map (fun ps => String.join (ps.map Piece.text)) = rs.map plainText := by
  induction h with
  | nil => rfl
  | @cons run ps rs divided hrun _ ih =>
    rw [List.flatMap_cons] at hbreaks
    obtain ⟨hps, hdivided⟩ := List.forall_mem_append.mp hbreaks
    rw [List.map_cons, List.map_cons, hrun.join_text hps, ih hdivided]

/-- The runs of properly nested events, with no block in an element of running text, can be divided
into images and other events. However that is done, each container and each image has the plain text
of its events, with line breaks within images left out there and put in front of the image. It has the
plain text as it stands exactly if there are none. -/
theorem plainText_ofEvents {events : List Event}
    (h : WellNested (barsBlocks Element.isInline) events) :
    (∃ divided, List.Forall₂ Divides (runs events) divided) ∧
      ∀ divided, List.Forall₂ Divides (runs events) divided →
        (containers (ParsedPage.ofEvents events).document.inOrder).map (·.content) =
            divided.map (fun ps => String.join (ps.map Piece.text)) ∧
          (images (ParsedPage.ofEvents events).document.inOrder).map imageReading =
            (divided.flatMap imagesIn).map (fun i => (some i.1, plainText (unbroken i.2))) ∧
          ((containers (ParsedPage.ofEvents events).document.inOrder).map (·.content) =
                (runs events).map plainText ∧
              (images (ParsedPage.ofEvents events).document.inOrder).map (·.content) =
                (divided.flatMap imagesIn).map (fun i => plainText i.2) ↔
            ∀ i ∈ divided.flatMap imagesIn, .hardBreak ∉ i.2) := by
  refine ⟨exists_divided h, fun divided hdivided => ?_⟩
  obtain ⟨htexts, hreadings⟩ := contents_of_divided hdivided
  have hpage : ∀ t ∈ (ParsedPage.ofEvents events).document.tokens, t.IsPageToken :=
    isPage_ofEvents events
  have hcontainers : containers (ParsedPage.ofEvents events).document.inOrder =
      (runs events).map fun run => (collected run).token :=
    (containers_siblingsInOrder hpage).trans (containers_ofEvents events)
  have himages : images (ParsedPage.ofEvents events).document.inOrder =
      (runs events).flatMap fun run => images (collected run).token.children := by
    rw [Document.inOrder, images_siblingsInOrder hpage, containers_ofEvents, List.flatMap_map]
  have hcontents : (containers (ParsedPage.ofEvents events).document.inOrder).map (·.content) =
      divided.map (fun ps => String.join (ps.map Piece.text)) := by
    rw [hcontainers, List.map_map]
    exact htexts
  have halternatives : (images (ParsedPage.ofEvents events).document.inOrder).map (·.content) =
      (divided.flatMap imagesIn).map (fun i => plainText (unbroken i.2)) := by
    have hsecond := congrArg (List.map Prod.snd) hreadings
    rw [List.map_map, List.map_map, ← himages] at hsecond
    exact hsecond
  refine ⟨hcontents, himages ▸ hreadings, ?_, ?_⟩
  · rintro ⟨-, htext⟩ i hi
    rw [halternatives, List.map_inj_left] at htext
    exact plainText_unbroken_eq_iff.mp (htext i hi)
  · intro hbreaks
    refine ⟨hcontents.trans (plainText_of_divided hdivided hbreaks), halternatives.trans ?_⟩
    exact List.map_congr_left fun i hi => plainText_unbroken_eq_iff.mpr (hbreaks i hi)

/-- What is within an image that holds another one. -/
def nestedInner : List Event :=
  [.text "x", .enter (.image "b.png" ""), .code "y", .softBreak, .leave (.image "b.png" ""),
    .enter .strong, .text "z", .leave .strong]

/-- A paragraph with this image in it. -/
def nestedImageEvents : List Event :=
  [.enter .paragraph, .text "see ", .enter (.image "a.png" "")] ++ nestedInner ++
    [.leave (.image "a.png" ""), .leave .paragraph]

theorem plainText_ofEvents_nested :
    WellNested (barsBlocks Element.isInline) nestedImageEvents ∧
      ∃ divided, List.Forall₂ Divides (runs nestedImageEvents) divided ∧
        divided.flatMap imagesIn = [("a.png", nestedInner)] ∧
        (containers (ParsedPage.ofEvents nestedImageEvents).document.inOrder).map (·.content) =
          (runs nestedImageEvents).map plainText ∧
        (images (ParsedPage.ofEvents nestedImageEvents).document.inOrder).map (·.content) =
          [plainText nestedInner] := by
  have hnested : WellNested (barsBlocks Element.isInline) nestedImageEvents := by decide
  have hdeep : Divides [.code "y", .softBreak] [.event (.code "y"), .event .softBreak] :=
    .event rfl (divides_singleton rfl)
  have hend : Divides [.enter .strong, .text "z", .leave .strong]
      [.event (.enter .strong), .event (.text "z"), .event (.leave .strong)] :=
    .event rfl (.event rfl (divides_singleton rfl))
  have hinner : Divides nestedInner _ := .event rfl (@Divides.image "b.png" "" _ _ _ _ hdeep hend)
  have hrun : Divides (.text "see " :: .enter (.image "a.png" "") :: nestedInner ++
      [.leave (.image "a.png" "")]) _ :=
    .event rfl (@Divides.image "a.png" "" _ _ _ _ hinner .nil)
  have hdivided : List.Forall₂ Divides (runs nestedImageEvents) _ := .cons hrun .nil
  obtain ⟨-, hall⟩ := plainText_ofEvents hnested
  obtain ⟨-, -, hiff⟩ := hall _ hdivided
  have hbreaks : ∀ i ∈ [("a.png", nestedInner)], .hardBreak ∉ i.2 := by decide
  obtain ⟨hcontainers, himages⟩ := hiff.mpr hbreaks
  exact ⟨hnested, _, hdivided, rfl, hcontainers, himages⟩

def brokenImageEvents : List Event :=
  [.enter .paragraph, .enter (.image "x.png" ""), .text "a", .hardBreak, .text "b",
    .leave (.image "x.png" ""), .leave .paragraph]

/-- The newline stands in front of the text of the image, and not within it. -/
theorem plainText_misses_break :
    WellNested (barsBlocks Element.isInline) brokenImageEvents ∧
      (runs brokenImageEvents).map plainText = ["a\nb"] ∧
      (containers (ParsedPage.ofEvents brokenImageEvents).document.inOrder).map (·.content) =
        ["\nab"] ∧
      (images (ParsedPage.ofEvents brokenImageEvents).document.inOrder).map (·.content) = ["ab"] := by
  decide +kernel

end Folio.Markdown
