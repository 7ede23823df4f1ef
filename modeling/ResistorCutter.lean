import ResistorCutter.SamplingChecks
import ResistorCutter.StopChecks
import ResistorCutter.UndisturbedChecks
import ResistorCutter.ProgressChecks
import ResistorCutter.PauseChecks
import ResistorCutter.DirectionChecks
import ResistorCutter.PressChecks
import ResistorCutter.RateChecks
import ResistorCutter.RepaintChecks
import ResistorCutter.StatusPageChecks
import ResistorCutter.ScreenChecks
import ResistorCutter.StationChecks
import ResistorCutter.MemoryChecks
import ResistorCutter.DriverChecks
import ResistorCutter.PageChecks
import ResistorCutter.ScrollChecks
import ResistorCutter.SessionChecks
import ResistorCutter.SpiChecks
import ResistorCutter.DnsChecks
import ResistorCutter.HttpMessage
import ResistorCutter.HttpCore
import ResistorCutter.ResponseChecks
import ResistorCutter.ReplyChecks
import ResistorCutter.RequestChecks
import ResistorCutter.ServerChecks
import ResistorCutter.QueryChecks
