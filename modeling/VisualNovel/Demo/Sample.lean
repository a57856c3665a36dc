namespace VisualNovel.Demo.Sample

def config : String :=
  r#"(
    viewport: (1280.0, 720.0),
    virtual_extent: (1920.0, 1080.0),
    fallback_color: (r: 16, g: 16, b: 24, a: 255),
    slots: ["朝", "昼", "夕", "夜"],
)
"#

def cast : String :=
  r#"(
    characters: [
        (
            name: "Aoi",
            display_name: Some("Aoi Kisaragi"),
            sprite_extent: (480.0, 960.0),
            default_expression: (eye: Some("normal"), mouth: Some("closed")),
        ),
        (
            name: "Mio",
            sprite_extent: (460.0, 940.0),
            default_expression: (eye: Some("soft"), mouth: Some("smile"), brow: Some("flat")),
        ),
        (
            name: "Hero",
            display_name: Some("You"),
            sprite_extent: (500.0, 980.0),
        ),
    ],
    backgrounds: ["rooftop", "library", "station"],
)
"#

def catalog : String :=
  r#"[
    (
        id: "rooftop_lunch",
        start: "6 1 朝",
        end: "6 1 朝",
        slots: "朝",
        heroine: "Aoi",
        location: "school",
        title: "Lunch on the Rooftop",
    ),
    (
        id: "library_study",
        start: "6 1 朝",
        end: "6 30 夜",
        slots: "朝;昼",
        heroine: "Mio",
        location: "school",
        title: "Study Session",
    ),
    (
        id: "station_goodbye",
        start: "5 20 夕",
        end: "6 10 夜",
        slots: "夕;夜",
        heroine: "Aoi",
        location: "town",
        title: "Goodbye at the Station",
    ),
    (
        id: "broken_row",
        start: 6,
    ),
    (
        id: "summer_festival",
        start: "eight one",
        end: "6 1 夜",
        slots: "夜",
        heroine: "Mio",
        location: "town",
        title: "Summer Festival",
    ),
]
"#

def script : String :=
  r#"[
    (speaker: "", text: "_BG_SHOW_rooftop_0.5_0.5_1.5"),
    (speaker: "", text: "_CHARA_NEW_Aoi_0.5_0.5"),
    (
        speaker: "Aoi",
        expression: (eye: Some("wide")),
        text: "You actually came.",
    ),
    (speaker: "Aoi", text: "_MOVE_0.3_0.5_500_1.2"),
    (speaker: "Hero", display_name: Some("Hero"), text: "I said I would."),
    (speaker: "", text: "_BG_MOVE_0.1_0.0_800"),
    (speaker: "", text: "_SCROLL_START"),
    (speaker: "Aoi", text: "The wind was warm. "),
    (speaker: "Aoi", text: "Neither of us spoke for a while."),
    (speaker: "", text: "_SCROLL_STOP"),
    (speaker: "", text: "_CHARA_HIDE_Aoi"),
]
"#

end VisualNovel.Demo.Sample
