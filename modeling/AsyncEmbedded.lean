import AsyncEmbedded.Basic
import AsyncEmbedded.WakerSet
import AsyncEmbedded.Mutex
import AsyncEmbedded.Channel
import AsyncEmbedded.ChannelSystem
import AsyncEmbedded.ChannelWakeups
import AsyncEmbedded.Executor.BlockOn
import AsyncEmbedded.Executor.Round
import AsyncEmbedded.Executor.Wake
import AsyncEmbedded.Nrf52.Twim
import AsyncEmbedded.Nrf52.Timer
import AsyncEmbedded.Nrf52.Serial
import AsyncEmbedded.Nrf52.EasyDma
import AsyncEmbedded.Nrf52.Ds3231
import AsyncEmbedded.Nrf52.Scd30
