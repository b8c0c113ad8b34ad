import TraceView.Config.Basic
import TraceView.Diagnostics.Event
import TraceView.Settings.File
import TraceView.WidgetStyle

namespace TraceView

inductive Notice where
  | configLoaded (path : Path)
  | configMissing (path : Path)
  | configResolved (source : ConfigSource) (frameRate : Nat)
  | settingsLoaded (path : Path) (sections : Nat)
  | settingsMissing (path : Path)
  | settingsUnavailable (cause : SettingsError)
  | colorsLoaded (count : Nat)
  | colorsSaved (count : Nat)
  | styleLoaded (fontScale : Float32)
  | styleSaved
  | savingSettings (colors : Nat) (path : Path)
  | settingsSaved (path : Path)
  | loaderCrashed (path : Path)
  | logClosed (remaining : Nat)
  | inputWatched (source : Nat)

namespace Notice

def pathField (path : Path) : Field := ⟨"path", .shown path.text⟩

def report (target : String) (level : Level) (message : String) (fields : List Field) : Event :=
  { level, target, fields := .message message :: fields }

def event : Notice → Event
  | configLoaded path =>
    report "tracevis_core::config" .info "Loaded configuration from file" [pathField path]
  | configMissing path =>
    report "tracevis_core::config" .debug "Config file not found, using defaults" [pathField path]
  | configResolved source frameRate =>
    report "tracevis_tui" .info "Configuration loaded"
      [⟨"source", .shown source.name⟩, ⟨"frame_rate", .nat frameRate⟩]
  | settingsLoaded path sections =>
    report "tracevis_core::settings::file" .info "Loaded settings"
      [pathField path, ⟨"sections", .nat sections⟩]
  | settingsMissing path =>
    report "tracevis_core::settings::file" .debug "Settings file not found, starting empty"
      [pathField path]
  | settingsUnavailable cause =>
    report "tracevis_tui::app" .warn "Settings unavailable, edits will not be saved"
      [⟨"error", .shown cause.message⟩]
  | colorsLoaded count =>
    report "tracevis_core::colors" .debug "Loaded color table"
      [⟨"loaded", .nat count⟩, ⟨"total", .nat Role.count⟩]
  | colorsSaved count =>
    report "tracevis_core::colors" .debug "Saved color table" [⟨"written", .nat count⟩]
  | styleLoaded fontScale =>
    report "tracevis_core::style" .debug "Loaded style settings"
      [⟨"font_scale", .ratio (Binary.widen fontScale)⟩]
  | styleSaved =>
    report "tracevis_core::style" .debug "Saved style settings"
      [⟨"section", .text WidgetStyle.area⟩, ⟨"count", .nat Part.count⟩]
  | savingSettings colors path =>
    report "tracevis_tui::app" .info "Saving settings" [⟨"colors", .nat colors⟩, pathField path]
  | settingsSaved path =>
    report "tracevis_core::settings::file" .info "Saved settings" [pathField path]
  | loaderCrashed path =>
    report "tracevis_tui::loader" .error "Loader thread panicked" [pathField path]
  | logClosed remaining =>
    report "tracevis_core::log" .debug "Log collector shut down" [⟨"remaining", .nat remaining⟩]
  | inputWatched source =>
    report "mio::poll" .trace
      ("registering event source with poller: token=Token(" ++ Decimal.digits source
        ++ "), interests=READABLE") []

end Notice

end TraceView
