import TerminalAndroid.Api.SocketListener
import TerminalAndroid.App.DocumentSearch
import TerminalAndroid.App.FileUtils
import TerminalAndroid.App.Logger
import TerminalAndroid.App.Paths
import TerminalAndroid.App.SettingsBackup
import TerminalAndroid.App.TermuxInstaller
import TerminalAndroid.App.UpdateInstaller
import TerminalAndroid.Emulator.ColorSpec
import TerminalAndroid.Emulator.Completion
import TerminalAndroid.Emulator.Confined
import TerminalAndroid.Emulator.CursorMoves
import TerminalAndroid.Emulator.Deliveries
import TerminalAndroid.Emulator.DynamicColors
import TerminalAndroid.Emulator.GraphicRendition
import TerminalAndroid.Emulator.PendingWrap
import TerminalAndroid.Emulator.PlainText
import TerminalAndroid.Emulator.SavedCursor
import TerminalAndroid.Emulator.SavedModes
import TerminalAndroid.Gui.ActivityIds
import TerminalAndroid.Gui.ActivityQueue
import TerminalAndroid.Gui.ConnectionHandler
import TerminalAndroid.Session.Monitor
import TerminalAndroid.Session.Paste
import TerminalAndroid.Shell.AmSocketServer
import TerminalAndroid.Shell.AppShell
import TerminalAndroid.Terminal.Buffer.FreshRow
import TerminalAndroid.Terminal.Buffer.History
import TerminalAndroid.Terminal.Intable
import TerminalAndroid.Terminal.Row.FastPath
import TerminalAndroid.Terminal.StyleEncoding
import TerminalAndroid.View.Echo
import TerminalAndroid.View.SelectionScroll
import TerminalAndroid.View.TerminalRenderer
import TerminalAndroid.X11.ActivityEvents
import TerminalAndroid.X11.BufferHandle
import TerminalAndroid.X11.Clipboard
import TerminalAndroid.X11.ClipboardText
import TerminalAndroid.X11.Connections
import TerminalAndroid.X11.InputEventSender
import TerminalAndroid.X11.Present
import TerminalAndroid.X11.ServerEvents
import TerminalAndroid.X11.SharedMutex
import TerminalAndroid.X11.Stylus
import TerminalAndroid.X11.WakeUp
